import Storefront.Proofs.Expansion.Strictness
import Storefront.Proofs.Predicate.Parameters
import Storefront.Proofs.Predicate.Parsing
import Storefront.Proofs.Store.Paging

/-!
Queries that are refused as malformed. Predicates are compiled before a document is looked at. Parameters
are looked up and expand clauses are read only where a document makes it necessary, so the same query can
be refused by one store and answered by another.
-/
namespace Storefront

/-! ### Expand clauses that are come to -/

namespace Expansion

variable {around : Surroundings} {value : Json} {clauses : List String} {error : Error}

/-- The expansion of a value along some clauses comes to one that cannot be read. -/
def MeetsMalformed (around : Surroundings) (clauses : List String) (value : Json) : Prop :=
  ∃ before source after between, clauses = before ++ source :: after ∧
    expand around before value = .ok between ∧ ∃ error, readClause source = .error error

theorem walk_error_isInvalidInput {clause : Clause}
    (failed : walk around clause value = .error error) : error.isInvalidInput = false := by
  obtain ⟨-, reached, reference, -, -, rfl⟩ := walk_error failed
  rfl

theorem readClause_error_isInvalidInput {source : String}
    (failed : readClause source = .error error) : error.isInvalidInput = true := by
  obtain ⟨quoted, rfl⟩ := readClause_error failed
  rfl

theorem meetsMalformed_cons {source : String} {later : List String} :
    MeetsMalformed around (source :: later) value ↔
      (∃ error, readClause source = .error error) ∨
        ∃ clause next, readClause source = .ok clause ∧ walk around clause value = .ok next ∧
          MeetsMalformed around later next := by
  constructor
  · rintro ⟨before, malformed, after, between, parts, expanded, fails⟩
    cases before with
    | nil =>
      cases parts
      exact .inl fails
    | cons first before =>
      cases parts
      obtain ⟨clause, next, read, walked, rest⟩ := expand_cons_eq_ok_iff.mp expanded
      exact .inr ⟨clause, next, read, walked, before, malformed, after, between, rfl, rest, fails⟩
  · rintro (fails | ⟨clause, next, read, walked, before, malformed, after, between, rfl, rest, fails⟩)
    · exact ⟨[], source, later, value, rfl, rfl, fails⟩
    · exact ⟨source :: before, malformed, after, between, rfl,
        expand_cons_eq_ok_iff.mpr ⟨clause, next, read, walked, rest⟩, fails⟩

/-- An expansion is refused as malformed exactly if it comes to a clause that cannot be read. -/
theorem expand_refused_iff :
    (∃ error, expand around clauses value = .error error ∧ error.isInvalidInput = true) ↔
      MeetsMalformed around clauses value := by
  induction clauses generalizing value with
  | nil =>
    constructor
    · rintro ⟨error, failed, -⟩
      contradiction
    · rintro ⟨before, source, after, between, parts, -⟩
      cases before <;> cases parts
  | cons source later ih =>
    rw [meetsMalformed_cons, expand_cons]
    cases read : readClause source with
    | error fault =>
      refine ⟨fun _ => .inl ⟨fault, rfl⟩, fun _ => ⟨fault, rfl, ?_⟩⟩
      exact readClause_error_isInvalidInput read
    | ok clause =>
      cases walked : walk around clause value with
      | error fault =>
        have dangling := walk_error_isInvalidInput walked
        constructor
        · rintro ⟨error, failed, invalid⟩
          simp only [bind, Except.bind, walked, Except.error.injEq] at failed
          subst failed
          exact absurd (dangling.symm.trans invalid) nofun
        · rintro (⟨_, failed⟩ | ⟨_, _, same, walked', -⟩)
          · contradiction
          · cases same
            exact absurd (walked.symm.trans walked') nofun
      | ok next =>
        simp only [bind, Except.bind, walked]
        rw [ih]
        constructor
        · exact fun met => .inr ⟨clause, next, rfl, walked, met⟩
        · rintro (⟨_, failed⟩ | ⟨_, _, same, walked', met⟩)
          · contradiction
          · cases same
            cases walked.symm.trans walked'
            exact met

end Expansion

/-! ### Queries -/

/-- Whether the request itself is found at fault. -/
def refuses : Except Error Page → Bool
  | .error error => error.isInvalidInput
  | .ok _ => false

theorem refuses_iff {outcome : Except Error Page} :
    refuses outcome = true ↔ ∃ error, outcome = .error error ∧ error.isInvalidInput = true := by
  cases outcome <;> simp [refuses]

/-- Where a step succeeds all along a list, it does so on each item, and its results are those of the
items. -/
theorem exists_of_mapM {α β : Type} {step : α → Except Error β} {items : List α} {results : List β}
    (mapped : items.mapM step = .ok results) :
    (∀ item ∈ items, ∃ result, step item = .ok result) ∧
      ∀ result ∈ results, ∃ item ∈ items, step item = .ok result := by
  have each := Expansion.forall₂_of_mapM_ok mapped
  clear mapped
  induction each with
  | nil => exact ⟨nofun, nofun⟩
  | cons here _ ih =>
    refine ⟨List.forall_mem_cons.mpr ⟨⟨_, here⟩, ih.1⟩, List.forall_mem_cons.mpr ⟨?_, ?_⟩⟩
    · exact ⟨_, List.mem_cons_self, here⟩
    · intro result member
      obtain ⟨item, among, stepped⟩ := ih.2 result member
      exact ⟨item, List.mem_cons_of_mem _ among, stepped⟩

namespace QueryParams

/-- A predicate of a query cannot be read. -/
def Unreadable (params : QueryParams) : Prop :=
  ∃ source ∈ params.predicates, ∃ error, Predicate.compile source = .error error

/-- All parameters of all predicates have values. -/
def Bound (params : QueryParams) : Prop :=
  ∀ source ∈ params.predicates, ∀ predicate, Predicate.compile source = .ok predicate →
    predicate.Bound params.bindings

/-- What the predicates of a query, once they are compiled, say of a document. -/
def verdict (params : QueryParams) (compiled : List Predicate) (doc : Json) : Except Error Bool :=
  compiled.allM (·.matchesWith params.bindings doc)

/-- On a document, evaluation comes to a parameter without a value. -/
def MeetsUnbound (params : QueryParams) (compiled : List Predicate) (doc : Json) : Prop :=
  ∃ predicate name,
    ComesTo (fun earlier => earlier.matchesWith params.bindings doc = .ok true) compiled predicate ∧
      predicate.Meets params.bindings doc name

theorem verdict_error_iff {params : QueryParams} {compiled : List Predicate} {doc : Json} :
    (∃ error, params.verdict compiled doc = .error error) ↔ params.MeetsUnbound compiled doc := by
  simp only [verdict, allM_error_iff, Predicate.matchesWith_error_iff]
  constructor
  · rintro ⟨error, predicate, comes, name, -, met⟩
    exact ⟨predicate, name, comes, met⟩
  · rintro ⟨predicate, name, comes, met⟩
    exact ⟨_, predicate, comes, name, rfl, met⟩

theorem verdict_error_isInvalidInput {params : QueryParams} {compiled : List Predicate} {doc : Json}
    {error : Error} (failed : params.verdict compiled doc = .error error) :
    error.isInvalidInput = true := by
  obtain ⟨predicate, -, fails⟩ := allM_error_iff.mp failed
  obtain ⟨name, rfl, -⟩ := Predicate.matchesWith_error_iff.mp fails
  rfl

end QueryParams

namespace Store

variable {store : Store} {tenant typeId : String} {params : QueryParams}

theorem filterDocs_error_iff {condition : Json → Except Error Bool} {docs : List Json}
    {error : Error} :
    filterDocs condition docs = .error error ↔
      ∃ doc, ComesTo (fun earlier => ∃ truth, condition earlier = .ok truth) docs doc ∧
        condition doc = .error error := by
  induction docs with
  | nil => exact ⟨nofun, fun ⟨_, comes, _⟩ => absurd comes comesTo_nil⟩
  | cons first docs ih =>
    rw [exists_comesTo_cons, ← ih, filterDocs]
    cases condition first with
    | error e => simp
    | ok keep => cases filterDocs condition docs <;> simp

/-- A query is refused as malformed. -/
def Rejects (store : Store) (tenant typeId : String) (params : QueryParams) : Prop :=
  refuses (store.query tenant typeId params).1 = true

/-- Looking through the stored documents comes to one on which evaluation comes to a parameter without
a value. -/
def MeetsUnbound (store : Store) (tenant typeId : String) (params : QueryParams)
    (compiled : List Predicate) : Prop :=
  ∃ doc, ComesTo (fun earlier => ∃ truth, params.verdict compiled earlier = .ok truth)
      (store.all tenant typeId) doc ∧
    params.MeetsUnbound compiled doc

/-- All stored documents are judged, and expanding those on the page comes to one whose expansion comes
to a malformed clause. -/
def MeetsMalformed (store : Store) (tenant typeId : String) (params : QueryParams)
    (compiled : List Predicate) : Prop :=
  ∃ matching doc, filterDocs (params.verdict compiled) (store.all tenant typeId) = .ok matching ∧
    ComesTo (fun earlier => ∃ result, store.expand tenant params.expand earlier = .ok result)
      (Page.slice (params.offset.getD 0) (store.settings.effectiveLimit params.limit) matching) doc ∧
    Expansion.MeetsMalformed (store.surroundings tenant) params.expand doc

theorem meetsUnbound_iff {compiled : List Predicate} :
    store.MeetsUnbound tenant typeId params compiled ↔
      ∃ error, filterDocs (params.verdict compiled) (store.all tenant typeId) = .error error := by
  simp only [MeetsUnbound, filterDocs_error_iff, ← QueryParams.verdict_error_iff]
  constructor
  · rintro ⟨doc, comes, error, failed⟩
    exact ⟨error, doc, comes, failed⟩
  · rintro ⟨error, doc, comes, failed⟩
    exact ⟨doc, comes, error, failed⟩

section Selection
variable {compiled : List Predicate}

/-- Looking through the documents fails as the query does. -/
theorem refuses_select_of_error {error : Error}
    (judged : filterDocs (params.verdict compiled) (store.all tenant typeId) = .error error) :
    refuses (store.select tenant typeId params compiled) = error.isInvalidInput := by
  have stopped : filterDocs (fun doc => compiled.allM (·.matchesWith params.bindings doc))
      (store.all tenant typeId) = .error error := judged
  simp only [select, stopped]
  rfl

/-- Where all documents can be judged, only the expansion of the page can fail. -/
theorem refuses_select_of_ok {matching : List Json}
    (judged : filterDocs (params.verdict compiled) (store.all tenant typeId) = .ok matching) :
    refuses (store.select tenant typeId params compiled) = true ↔
      ∃ error, (Page.slice (params.offset.getD 0) (store.settings.effectiveLimit params.limit)
          matching).mapM (store.expand tenant params.expand) = .error error ∧
        error.isInvalidInput = true := by
  have passed : filterDocs (fun doc => compiled.allM (·.matchesWith params.bindings doc))
      (store.all tenant typeId) = .ok matching := judged
  rw [refuses_iff]
  simp only [select, passed]
  cases (Page.slice (params.offset.getD 0) (store.settings.effectiveLimit params.limit)
    matching).mapM (store.expand tenant params.expand) <;> simp

/-- A query that could be compiled is refused exactly if it comes to a parameter without a value on a
stored document, or to a malformed clause on its page. -/
theorem select_refused_iff :
    refuses (store.select tenant typeId params compiled) = true ↔
      store.MeetsUnbound tenant typeId params compiled ∨
        store.MeetsMalformed tenant typeId params compiled := by
  rw [meetsUnbound_iff]
  cases judged : filterDocs (params.verdict compiled) (store.all tenant typeId) with
  | error error =>
    obtain ⟨doc, -, failed⟩ := filterDocs_error_iff.mp judged
    have invalid := QueryParams.verdict_error_isInvalidInput failed
    rw [refuses_select_of_error judged]
    exact ⟨fun _ => .inl ⟨error, rfl⟩, fun _ => invalid⟩
  | ok matching =>
    rw [refuses_select_of_ok judged]
    constructor
    · rintro ⟨error, failed, invalid⟩
      obtain ⟨doc, comes, fails⟩ := mapM_error_iff.mp failed
      have met := Expansion.expand_refused_iff.mp ⟨error, fails, invalid⟩
      exact .inr ⟨matching, doc, judged, comes, met⟩
    · rintro (⟨error, failed⟩ | ⟨_, doc, same, comes, met⟩)
      · cases failed
      · cases judged.symm.trans same
        obtain ⟨error, failed, invalid⟩ := Expansion.expand_refused_iff.mpr met
        exact ⟨error, mapM_error_iff.mpr ⟨doc, comes, failed⟩, invalid⟩

end Selection

/-- A query is refused as malformed exactly if one of its predicates cannot be read, or if, all of them
compiled, it comes to a parameter without a value or to a malformed clause. -/
theorem Faithful.rejects_iff (faithful : store.Faithful) :
    store.Rejects tenant typeId params ↔
      params.Unreadable ∨ ∃ compiled, params.predicates.mapM Predicate.compile = .ok compiled ∧
        (store.MeetsUnbound tenant typeId params compiled ∨
          store.MeetsMalformed tenant typeId params compiled) := by
  cases compiles : params.predicates.mapM Predicate.compile with
  | error error =>
    obtain ⟨source, comes, failed⟩ := mapM_error_iff.mp compiles
    have unreadable : params.Unreadable := ⟨source, comes.mem, error, failed⟩
    have invalid : error.isInvalidInput = true := by
      have fault := Predicate.ensures_compile source
      rw [failed] at fault
      obtain ⟨_, _, rfl⟩ := fault
      rfl
    have answer := faithful.compileAll params.predicates
    rw [compiles] at answer
    have refused : store.Rejects tenant typeId params := by
      unfold Rejects Store.query
      rcases outcome : store.compileAll params.predicates with ⟨found, after⟩
      rw [outcome] at answer
      obtain rfl : found = .error error := answer
      exact invalid
    exact ⟨fun _ => .inl unreadable, fun _ => refused⟩
  | ok compiled =>
    have readable : ¬ params.Unreadable := by
      rintro ⟨source, member, error, failed⟩
      obtain ⟨predicate, compiled⟩ := (exists_of_mapM compiles).1 source member
      exact absurd (failed.symm.trans compiled) nofun
    rw [Rejects, faithful.query tenant typeId params compiles, select_refused_iff]
    constructor
    · exact fun met => .inr ⟨compiled, rfl, met⟩
    · rintro (unreadable | ⟨_, same, met⟩)
      · exact absurd unreadable readable
      · cases same
        exact met

/-- A request whose parameters all have values and whose clauses can all be read is refused for its
predicates only. -/
theorem Faithful.rejects_iff_of_bound (faithful : store.Faithful) (bound : params.Bound)
    (readable : Expansion.Readable params.expand) :
    store.Rejects tenant typeId params ↔ params.Unreadable := by
  rw [faithful.rejects_iff]
  constructor
  · rintro (unreadable | ⟨compiled, compiles, met | met⟩)
    · exact unreadable
    · obtain ⟨doc, -, predicate, name, comes, met⟩ := met
      obtain ⟨source, member, read⟩ := (exists_of_mapM compiles).2 predicate comes.mem
      exact absurd met ((bound source member predicate read).not_meets doc)
    · obtain ⟨matching, doc, -, -, before, source, after, between, parts, -, error, failed⟩ := met
      obtain ⟨clause, read⟩ := readable source (parts ▸ List.mem_append_right _ List.mem_cons_self)
      exact absurd (read.symm.trans failed) nofun
  · exact .inl

/-- A store without documents refuses a query for its predicates only. -/
theorem empty_rejects_iff (settings : Settings) :
    (empty settings).Rejects tenant typeId params ↔ params.Unreadable := by
  rw [(faithful_empty settings).rejects_iff]
  constructor
  · rintro (unreadable | ⟨compiled, compiles, met | met⟩)
    · exact unreadable
    · obtain ⟨doc, comes, -⟩ := met
      exact absurd comes comesTo_nil
    · obtain ⟨matching, doc, judged, comes, -⟩ := met
      cases judged
      exact absurd comes (by simp [Page.slice, comesTo_nil])
  · exact .inl

/-- A store refuses a query as malformed exactly if a predicate cannot be read, or if it comes to a
parameter without a value on a stored document, or to a malformed clause on its page. So stores with the
same settings agree on a request exactly if a predicate of it cannot be read or none of them comes to
such a place, and they do so whenever its parameters have values and its clauses can be read. -/
theorem rejected_exactly_where_reached (tenant typeId : String) (params : QueryParams) :
    (∀ store, Reachable store →
      (store.Rejects tenant typeId params ↔
        params.Unreadable ∨ ∃ compiled, params.predicates.mapM Predicate.compile = .ok compiled ∧
          (store.MeetsUnbound tenant typeId params compiled ∨
            store.MeetsMalformed tenant typeId params compiled))) ∧
    (∀ settings,
      (∀ left right, Reachable left → Reachable right → left.settings = settings →
        right.settings = settings →
        (left.Rejects tenant typeId params ↔ right.Rejects tenant typeId params)) ↔
      params.Unreadable ∨ ∀ store, Reachable store → store.settings = settings →
        ∀ compiled, params.predicates.mapM Predicate.compile = .ok compiled →
          ¬ store.MeetsUnbound tenant typeId params compiled ∧
            ¬ store.MeetsMalformed tenant typeId params compiled) ∧
    (params.Bound → Expansion.Readable params.expand →
      ∀ store, Reachable store → (store.Rejects tenant typeId params ↔ params.Unreadable)) := by
  refine ⟨?_, ?_, ?_⟩
  · intro store reachable
    exact reachable.faithful.rejects_iff
  · intro settings
    constructor
    · intro agree
      by_cases unreadable : params.Unreadable
      · exact .inl unreadable
      · right
        intro store reachable same compiled compiles
        have empty : Reachable (empty settings) := ⟨settings, [], rfl⟩
        have accepted : ¬ store.Rejects tenant typeId params := by
          rwa [agree store _ reachable empty same rfl, empty_rejects_iff]
        rw [reachable.faithful.rejects_iff] at accepted
        constructor
        · exact fun met => accepted (.inr ⟨compiled, compiles, .inl met⟩)
        · exact fun met => accepted (.inr ⟨compiled, compiles, .inr met⟩)
    · intro settled left right fromLeft fromRight sameLeft sameRight
      have each {store : Store} (reachable : Reachable store) (same : store.settings = settings) :
          store.Rejects tenant typeId params ↔ params.Unreadable := by
        rw [reachable.faithful.rejects_iff]
        constructor
        · rintro (unreadable | ⟨compiled, compiles, met⟩)
          · exact unreadable
          · rcases settled with unreadable | never
            · exact unreadable
            · obtain ⟨unbound, malformed⟩ := never store reachable same compiled compiles
              exact (met.elim unbound malformed).elim
        · exact .inl
      rw [each fromLeft sameLeft, each fromRight sameRight]
  · intro bound readable store reachable
    exact reachable.faithful.rejects_iff_of_bound bound readable

/-- A document is enough to come to a parameter. With a value for it the query is not refused. -/
theorem rejected_where_reached_by_one_document :
    let doc := Json.ofMembers [("id", .string "d"), ("version", .ofNat 1)]
    let one := (empty {}).serveAll [.call (.add "t" "thing" doc)]
    let unbound : QueryParams := { predicates := ["a = :x"] }
    let bound : QueryParams := { predicates := ["a = :x"], bindings := [("x", .ofNat 1)] }
    Reachable one ∧ bound.Bound ∧ Expansion.Readable bound.expand ∧
    (∃ compiled, unbound.predicates.mapM Predicate.compile = .ok compiled ∧
      one.MeetsUnbound "t" "thing" unbound compiled) ∧
    ¬ one.Rejects "t" "thing" bound := by
  intro doc one unbound bound
  have reachable : Reachable one := ⟨{}, _, rfl⟩
  have readable : Expansion.Readable bound.expand := nofun
  have names : (Predicate.compile "a = :x").toOption.map (·.tests.flatMap Test.parameters) =
      some ["x"] := by decide +kernel
  have hasValues : bound.Bound := by
    intro source member predicate compiled test tested name named
    obtain rfl := List.mem_singleton.mp member
    rw [compiled] at names
    have all : predicate.tests.flatMap Test.parameters = ["x"] := Option.some.inj names
    have among : name ∈ ["x"] := all ▸ List.mem_flatMap.mpr ⟨test, tested, named⟩
    obtain rfl := List.mem_singleton.mp among
    exact nofun
  have compiles : ¬ unbound.Unreadable := by
    rintro ⟨source, member, error, failed⟩
    obtain rfl := List.mem_singleton.mp member
    rw [failed] at names
    exact nomatch names
  have refused : one.Rejects "t" "thing" unbound := by
    change refuses (one.query "t" "thing" unbound).1 = true
    decide +kernel
  refine ⟨reachable, hasValues, readable, ?_, ?_⟩
  · rcases ((rejected_exactly_where_reached "t" "thing" unbound).1 one reachable).mp refused with
      unreadable | ⟨compiled, read, met | met⟩
    · exact absurd unreadable compiles
    · exact ⟨compiled, read, met⟩
    · obtain ⟨_, _, -, -, before, _, _, _, parts, -⟩ := met
      cases before <;> cases parts
  · have settled := (rejected_exactly_where_reached "t" "thing" bound).2.2 hasValues readable
    rw [settled one reachable]
    exact compiles

/-- One document makes the difference: without it a parameter that has no value and a clause that
cannot be read go unnoticed. -/
theorem rejection_depends_on_documents :
    let doc := Json.ofMembers [("id", .string "d"), ("version", .ofNat 1)]
    let none := (empty {}).serveAll []
    let one := (empty {}).serveAll [.call (.add "t" "thing" doc)]
    let unbound : QueryParams := { predicates := ["a = :x"] }
    let malformed : QueryParams := { expand := ["a["] }
    Reachable none ∧ Reachable one ∧ none.settings = one.settings ∧
    ¬ (none.Rejects "t" "thing" unbound ↔ one.Rejects "t" "thing" unbound) ∧
    ¬ (none.Rejects "t" "thing" malformed ↔ one.Rejects "t" "thing" malformed) := by
  intro doc none one unbound malformed
  have answered : refuses (none.query "t" "thing" unbound).1 = false := by decide +kernel
  have refused : refuses (one.query "t" "thing" unbound).1 = true := by decide +kernel
  have answered' : refuses (none.query "t" "thing" malformed).1 = false := by decide +kernel
  have refused' : refuses (one.query "t" "thing" malformed).1 = true := by decide +kernel
  refine ⟨⟨{}, [], rfl⟩, ⟨{}, _, rfl⟩, rfl, ?_, ?_⟩
  · intro agree
    exact absurd (answered.symm.trans (agree.mpr refused)) nofun
  · intro agree
    exact absurd (answered'.symm.trans (agree.mpr refused')) nofun

end Store
end Storefront
