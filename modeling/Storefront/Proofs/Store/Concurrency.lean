import Storefront.Proofs.Store.Operation

/-! Clients that change one document behind the check of its version. From the creation of the
document to its deletion every call finds a version that counts the updates so far, and the version
fixes the document; so an update edits exactly what its client has read. -/
namespace Storefront

/-! ### Calls and their interleavings -/

/-- An order of the calls of some clients, in which each client makes its own calls in turn. -/
inductive Interleaving : List (List Operation) → List Operation → Prop where
  | done : (∀ client ∈ clients, client = []) → Interleaving clients []
  | next (turn : Nat) : clients[turn]? = some (call :: rest) →
      Interleaving (clients.set turn rest) calls → Interleaving clients (call :: calls)

theorem Interleaving.mem (interleaving : Interleaving clients calls) (member : call ∈ calls) :
    ∃ client ∈ clients, call ∈ client := by
  induction interleaving with
  | done => contradiction
  | next turn chosen _ ih =>
    have source := List.mem_of_getElem? chosen
    rcases List.mem_cons.mp member with rfl | later
    · exact ⟨_, source, List.mem_cons_self⟩
    · obtain ⟨client, among, has⟩ := ih later
      rcases List.mem_or_eq_of_mem_set among with among | rfl
      · exact ⟨client, among, has⟩
      · exact ⟨_, source, List.mem_cons_of_mem _ has⟩

namespace Operation

/-- Neither a raw write nor a deletion that names no version. -/
def guarded : Operation → Bool
  | add _ _ _ | delete _ _ => false
  | _ => true

/-- Whether a call updates the document at a place. -/
def updates (place : Address) : Operation → Bool
  | update there _ _ _ => there = place
  | _ => false

/-- Whether a call deletes the document at a place. -/
def deletes (place : Address) : Operation → Bool
  | delete there _ | deleteVersioned there _ => there = place
  | _ => false

/-- The version that an update or a deletion of the document at a place names. -/
def expects? (place : Address) : Operation → Option Nat
  | update there expected _ _ | deleteVersioned there expected =>
    if there = place then some expected else none
  | _ => none

theorem expects?_update_iff : (update there expected now edit).expects? place = some version ↔
    there = place ∧ expected = version := by
  rw [expects?, Option.ite_none_right_eq_some, Option.some.injEq]

theorem expects?_deleteVersioned_iff : (deleteVersioned there expected).expects? place = some version ↔
    there = place ∧ expected = version := by
  rw [expects?, Option.ite_none_right_eq_some, Option.some.injEq]

end Operation

namespace Store

def versionAt? (store : Store) (place : Address) : Option Nat :=
  (store.document? place).bind Document.version?

/-- How many calls of some kind succeed along a run. -/
def successes (store : Store) (kind : Operation → Bool) : List Operation → Nat
  | [] => 0
  | call :: calls =>
    (if kind call && (store.perform call).1.isOk then 1 else 0) +
      successes (store.perform call).2 kind calls

theorem successes_append (store : Store) (kind : Operation → Bool) (first second : List Operation) :
    store.successes kind (first ++ second) =
      store.successes kind first + (store.run first).successes kind second := by
  induction first generalizing store with
  | nil => simp [successes]
  | cons call calls ih => simp only [List.cons_append, successes, ih, run_cons, Nat.add_assoc]

/-! ### One call -/

variable {store : Store} {place : Address} {call : Operation} {version : Nat}

theorem versionAt?_eq_some_iff : store.versionAt? place = some version ↔
    ∃ doc, store.document? place = some doc ∧ Document.version? doc = some version :=
  Option.bind_eq_some_iff

/-- An update or a deletion that succeeds names the version stored. -/
theorem versionAt?_of_succeeded (expects : call.expects? place = some version)
    (succeeded : (store.perform call).1.isOk = true) : store.versionAt? place = some version := by
  cases call with
  | update there expected now edit =>
    obtain ⟨rfl, rfl⟩ := Operation.expects?_update_iff.mp expects
    obtain ⟨stored, after, answer⟩ := ok_of_answered succeeded
    obtain ⟨doc, _, _, present, versioned, _⟩ := update_succeeded answer
    exact versionAt?_eq_some_iff.mpr ⟨doc, present, versioned⟩
  | deleteVersioned there expected =>
    obtain ⟨rfl, rfl⟩ := Operation.expects?_deleteVersioned_iff.mp expects
    obtain ⟨doc, after, answer⟩ := ok_of_answered succeeded
    obtain ⟨present, versioned, _⟩ := deleteVersioned_succeeded answer
    exact versionAt?_eq_some_iff.mpr ⟨doc, present, versioned⟩
  | _ => contradiction

/-- An update or a deletion that names another version is a conflict of the two. -/
theorem perform_stale (expects : call.expects? place = some expected)
    (present : store.versionAt? place = some version) (stale : version ≠ expected) :
    store.perform call = (.error (.conflict expected version), store) := by
  obtain ⟨doc, stored, versioned⟩ := versionAt?_eq_some_iff.mp present
  cases call with
  | update there named now edit =>
    obtain ⟨rfl, rfl⟩ := Operation.expects?_update_iff.mp expects
    simp only [perform, answered, update_stale stored versioned stale, Except.map]
  | deleteVersioned there named =>
    obtain ⟨rfl, rfl⟩ := Operation.expects?_deleteVersioned_iff.mp expects
    simp only [perform, answered, deleteVersioned_of_version stored versioned, if_pos stale,
      Except.map]
  | _ => contradiction

/-- An update that succeeds stores the next version. -/
theorem versionAt?_perform_update (updates : call.updates place = true)
    (succeeded : (store.perform call).1.isOk = true) :
    ∃ version, call.expects? place = some version ∧ store.versionAt? place = some version ∧
      (store.perform call).2.versionAt? place = some (version + 1) := by
  cases call with
  | update there expected now edit =>
    obtain rfl : there = place := of_decide_eq_true updates
    obtain ⟨stored, after, answer⟩ := ok_of_answered succeeded
    obtain ⟨doc, _, _, present, versioned, _, _, _, _, raised, changed⟩ := update_succeeded answer
    refine ⟨expected, Operation.expects?_update_iff.mpr ⟨rfl, rfl⟩,
      versionAt?_eq_some_iff.mpr ⟨doc, present, versioned⟩,
      versionAt?_eq_some_iff.mpr ⟨stored, ?_, raised⟩⟩
    simp only [perform, answered, answer, changed, document?_insert, if_true]
  | _ => contradiction

/-- Every other call leaves a stored document as it is, unless it deletes it. -/
theorem document?_perform (guarded : call.guarded = true)
    (present : store.versionAt? place = some version)
    (quiet : (call.updates place && (store.perform call).1.isOk) = false)
    (kept : (call.deletes place && (store.perform call).1.isOk) = false) :
    (store.perform call).2.document? place = store.document? place := by
  cases call with
  | add | delete => contradiction
  | create tenant typeId draft now freshId =>
    simp only [perform, answered]
    rcases answer : store.create tenant typeId draft now freshId with ⟨_ | stored, after⟩
    · rw [create_failed answer]
    · obtain ⟨id, free, _, _, rfl⟩ := create_succeeded answer
      refine (document?_insert store ⟨tenant, typeId, id⟩ place stored).trans (if_neg ?_)
      rintro rfl
      obtain ⟨doc, found, _⟩ := versionAt?_eq_some_iff.mp present
      exact nomatch found.symm.trans free
  | get there clauses => rfl
  | query tenant typeId params =>
    exact document?_of_tenants (query_tenants store tenant typeId params)
  | update there expected now edit =>
    simp only [perform, answered] at quiet ⊢
    rcases answer : store.update there.tenant there.typeId there.id expected now edit
      with ⟨_ | stored, after⟩
    · rw [update_failed answer]
    · obtain ⟨_, _, _, _, _, _, _, _, _, _, rfl⟩ := update_succeeded answer
      rw [document?_insert, if_neg]
      simpa [answer, Operation.updates, Except.map, Except.isOk, Except.toBool] using quiet
  | deleteVersioned there expected =>
    simp only [perform, answered] at kept ⊢
    rcases answer : store.deleteVersioned there.tenant there.typeId there.id expected
      with ⟨_ | doc, after⟩
    · rw [deleteVersioned_failed answer]
    · obtain ⟨_, _, rfl⟩ := deleteVersioned_succeeded answer
      rw [document?_erase, if_neg]
      simpa [answer, Operation.deletes, Except.map, Except.isOk, Except.toBool] using kept

/-! ### Runs -/

theorem versionAt?_perform (guarded : call.guarded = true)
    (present : store.versionAt? place = some version)
    (kept : (call.deletes place && (store.perform call).1.isOk) = false) :
    (store.perform call).2.versionAt? place =
      some (version + if call.updates place && (store.perform call).1.isOk then 1 else 0) := by
  cases updated : call.updates place && (store.perform call).1.isOk with
  | true =>
    obtain ⟨updates, succeeded⟩ := Bool.and_eq_true_iff.mp updated
    obtain ⟨named, _, before, after⟩ := versionAt?_perform_update updates succeeded
    cases present.symm.trans before
    exact after
  | false =>
    rw [versionAt?, document?_perform guarded present updated kept]
    exact present

/-- The part of `successes` that the first call makes up, for calls of which none succeeds. -/
theorem quiet_cons {kind : Operation → Bool} (none : store.successes kind (call :: calls) = 0) :
    (kind call && (store.perform call).1.isOk) = false ∧
      (store.perform call).2.successes kind calls = 0 := by
  simp only [successes, Nat.add_eq_zero_iff] at none
  refine ⟨?_, none.2⟩
  cases first : kind call && (store.perform call).1.isOk with
  | false => rfl
  | true => simp [first] at none

/-- As long as a document is not deleted, its version goes up by one with each update of it. -/
theorem versionAt?_run (guarded : ∀ call ∈ calls, call.guarded = true)
    (present : store.versionAt? place = some version)
    (kept : store.successes (·.deletes place) calls = 0) :
    (store.run calls).versionAt? place =
      some (version + store.successes (·.updates place) calls) := by
  induction calls generalizing store version with
  | nil => exact present
  | cons call calls ih =>
    obtain ⟨keptHere, keptLater⟩ := quiet_cons kept
    have here := versionAt?_perform (guarded call List.mem_cons_self) present keptHere
    rw [run_cons, ih (fun later member => guarded later (List.mem_cons_of_mem _ member)) here
      keptLater, successes, Nat.add_assoc]

/-- Without an update of it a document stays the same. -/
theorem document?_run (guarded : ∀ call ∈ calls, call.guarded = true)
    (present : store.versionAt? place = some version)
    (kept : store.successes (·.deletes place) calls = 0)
    (none : store.successes (·.updates place) calls = 0) :
    (store.run calls).document? place = store.document? place := by
  induction calls generalizing store with
  | nil => rfl
  | cons call calls ih =>
    obtain ⟨keptHere, keptLater⟩ := quiet_cons kept
    obtain ⟨quietHere, quietLater⟩ := quiet_cons none
    have same := document?_perform (guarded call List.mem_cons_self) present quietHere keptHere
    have still : (store.perform call).2.versionAt? place = some version := by
      rw [versionAt?, same]
      exact present
    rw [run_cons, ih (fun later member => guarded later (List.mem_cons_of_mem _ member)) still
      keptLater quietLater, same]

/-- Of the updates that name one version one succeeds at most, and none once the version is past. -/
theorem successes_naming_le (guarded : ∀ call ∈ calls, call.guarded = true)
    (present : store.versionAt? place = some version)
    (kept : store.successes (·.deletes place) calls = 0) (named : Nat) :
    store.successes (fun call => call.updates place && call.expects? place = some named) calls ≤
      if version ≤ named then 1 else 0 := by
  induction calls generalizing store version with
  | nil => exact Nat.zero_le _
  | cons call calls ih =>
    obtain ⟨keptHere, keptLater⟩ := quiet_cons kept
    have here := versionAt?_perform (guarded call List.mem_cons_self) present keptHere
    have rest := ih (fun later member => guarded later (List.mem_cons_of_mem _ member)) here keptLater
    rw [successes]
    by_cases first : (call.updates place && call.expects? place = some named &&
        (store.perform call).1.isOk) = true
    · simp only [Bool.and_eq_true, decide_eq_true_eq] at first
      obtain ⟨⟨updates, expects⟩, succeeded⟩ := first
      cases present.symm.trans (versionAt?_of_succeeded expects succeeded)
      simp only [updates, expects, succeeded, Bool.and_self, decide_true, if_true] at rest ⊢
      simp only [Nat.not_succ_le_self, if_false] at rest
      simp only [Nat.le_refl, if_true]
      omega
    · rw [if_neg first, Nat.zero_add]
      generalize (if (call.updates place && (store.perform call).1.isOk) = true then 1 else 0) =
        more at rest
      refine Nat.le_trans rest ?_
      split <;> split <;> omega

/-! ### The life of a document -/

theorem successes_earlier {kind : Operation → Bool} (earlier : past <+: calls)
    (none : store.successes kind calls = 0) : store.successes kind past = 0 := by
  obtain ⟨future, rfl⟩ := earlier
  rw [successes_append] at none
  omega

/-- What the clients of a document can rely on while it is stored. A moment is given by the calls
made before it. -/
structure Serialised (place : Address) (start : Store) (calls : List Operation) : Prop where
  /-- The version is one more than the number of updates so far. -/
  counted : ∀ past, past <+: calls →
    (start.run past).versionAt? place = some (1 + start.successes (·.updates place) past)
  /-- An update or a deletion that succeeds, next to come at any moment, names the version stored. -/
  named : ∀ past call version, past <+: calls → call.expects? place = some version →
    ((start.run past).perform call).1.isOk = true →
    (start.run past).versionAt? place = some version
  /-- One that names another version fails, says which two versions differ and changes nothing. -/
  refused : ∀ past call version current, past <+: calls → call.expects? place = some version →
    (start.run past).versionAt? place = some current → current ≠ version →
    (start.run past).perform call = (.error (.conflict version current), start.run past)
  /-- The version fixes the document. -/
  same : ∀ past other, past <+: calls → other <+: calls →
    (start.run past).versionAt? place = (start.run other).versionAt? place →
    (start.run past).document? place = (start.run other).document? place
  /-- What a successful update edits is the document that any client read at the version named. -/
  edited : ∀ past other version now edit stored after read, past <+: calls → other <+: calls →
    (start.run past).update place.tenant place.typeId place.id version now edit =
      (.ok stored, after) →
    (start.run other).get place.tenant place.typeId place.id [] = .ok (some read) →
    Document.version? read = some version →
    ∃ changed touched, edit read = .ok changed ∧
      Document.touch (Document.pinned changed place.id version) now = .ok touched ∧
      stored = touched.stripTargets ∧ after.document? place = some stored
  /-- One update at most succeeds for each version. -/
  once : ∀ version,
    start.successes (fun call => call.updates place && call.expects? place = some version) calls ≤ 1

theorem get_nil_eq_some_iff : store.get tenant typeId key [] = .ok (some doc) ↔
    store.stored? tenant typeId key = some doc := by
  rw [get]
  cases store.stored? tenant typeId key with
  | none => simp [expandFound]
  | some stored => simp [expandFound, Except.map]

theorem document?_eq_of_version (guarded : ∀ call ∈ calls, call.guarded = true)
    (present : store.versionAt? place = some version)
    (kept : store.successes (·.deletes place) calls = 0)
    (same : (store.run calls).versionAt? place = some version) :
    (store.run calls).document? place = store.document? place := by
  rw [versionAt?_run guarded present kept, Option.some.injEq] at same
  exact document?_run guarded present kept (by omega)

theorem serialised_of_version (guarded : ∀ call ∈ calls, call.guarded = true)
    (created : store.versionAt? place = some 1)
    (kept : store.successes (·.deletes place) calls = 0) : Serialised place store calls := by
  have counted : ∀ past, past <+: calls →
      (store.run past).versionAt? place = some (1 + store.successes (·.updates place) past) :=
    fun past earlier => versionAt?_run (fun call member => guarded call (earlier.subset member))
      created (successes_earlier earlier kept)
  have ordered : ∀ past other, past <+: other → other <+: calls →
      (store.run past).versionAt? place = (store.run other).versionAt? place →
      (store.run other).document? place = (store.run past).document? place := by
    rintro past _ ⟨between, rfl⟩ later equal
    have quiet := successes_earlier later kept
    rw [successes_append] at quiet
    have here := counted past ((List.prefix_append past between).trans later)
    rw [run_append] at equal ⊢
    refine document?_eq_of_version (fun call member => guarded call (later.subset ?_)) here
      (by omega) (equal.symm.trans here)
    exact List.mem_append_right past member
  have same : ∀ past other, past <+: calls → other <+: calls →
      (store.run past).versionAt? place = (store.run other).versionAt? place →
      (store.run past).document? place = (store.run other).document? place := by
    intro past other earlier later equal
    rcases List.prefix_or_prefix_of_prefix earlier later with before | behind
    · exact (ordered past other before later equal).symm
    · exact ordered other past behind earlier equal.symm
  refine ⟨counted, fun _ _ _ _ => versionAt?_of_succeeded, fun _ _ _ _ _ => perform_stale, same,
    ?_, ?_⟩
  · intro past other version now edit stored after read earlier later updated got versioned
    have there := get_nil_eq_some_iff.mp got
    obtain ⟨doc, changed, touched, present, current, edits, touches, rfl, _, _, rfl⟩ :=
      update_succeeded updated
    have equal := same past other earlier later
      ((versionAt?_eq_some_iff.mpr ⟨doc, present, current⟩).trans
        (versionAt?_eq_some_iff.mpr ⟨read, there, versioned⟩).symm)
    cases (present.symm.trans equal).trans there
    exact ⟨changed, touched, edits, touches, rfl, by rw [document?_insert, if_pos rfl]⟩
  · intro version
    refine Nat.le_trans (successes_naming_le guarded created kept version) ?_
    split <;> omega

/-- Any number of clients make their calls in any interleaving, none of them raw. From the creation
of a document until a deletion of it succeeds no update is lost. -/
theorem serialised_of_created {place : Address}
    (created : store.create place.tenant place.typeId draft now freshId = (.ok doc, start))
    (named : Document.id? doc = some place.id) (interleaving : Interleaving clients calls)
    (guarded : ∀ client ∈ clients, ∀ call ∈ client, call.guarded = true)
    (kept : start.successes (·.deletes place) calls = 0) : Serialised place start calls := by
  apply serialised_of_version _ _ kept
  · intro call member
    obtain ⟨client, among, has⟩ := interleaving.mem member
    exact guarded client among call has
  · obtain ⟨id, _, stored, versioned, rfl⟩ := create_succeeded created
    cases named.symm.trans stored.named
    exact versionAt?_eq_some_iff.mpr ⟨doc, by rw [document?_insert, if_pos rfl], versioned⟩

/-- Two clients have read the first version of a cart and update it. The first of them to call is
served; the second is refused, and so is its deletion. -/
theorem serialised_two_clients :
    let place : Address := ⟨"shop", "cart", "c"⟩
    let read := Operation.get place []
    let fill := Operation.update place 1 ⟨60, 0⟩ fun doc => .ok (doc.setField "total" (.ofNat 5))
    let clear := Operation.update place 1 ⟨61, 0⟩ fun doc => .ok (doc.dropField "total")
    let discard := Operation.deleteVersioned place 1
    ∃ doc start,
      (empty {}).create "shop" "cart" (.object [("id", .string "c")]) ⟨0, 0⟩ "" = (.ok doc, start) ∧
      Document.id? doc = some place.id ∧
      Interleaving [[read, fill], [read, clear, discard]] [read, read, fill, clear, discard] ∧
      (∀ client ∈ [[read, fill], [read, clear, discard]], ∀ call ∈ client, call.guarded = true) ∧
      start.successes (·.deletes place) [read, read, fill, clear, discard] = 0 ∧
      Serialised place start [read, read, fill, clear, discard] ∧
      ((start.run [read, read]).perform fill).1.isOk = true ∧
      (start.run [read, read, fill]).perform clear =
        (.error (.conflict 1 2), start.run [read, read, fill]) ∧
      (start.run [read, read, fill, clear]).perform discard =
        (.error (.conflict 1 2), start.run [read, read, fill, clear]) := by
  intro place read fill clear discard
  have interleaving :
      Interleaving [[read, fill], [read, clear, discard]] [read, read, fill, clear, discard] :=
    .next 0 rfl (.next 1 rfl (.next 0 rfl (.next 1 rfl (.next 1 rfl (.done (by simp))))))
  have guarded : ∀ client ∈ [[read, fill], [read, clear, discard]], ∀ call ∈ client,
      call.guarded = true := by
    simp [read, fill, clear, discard, Operation.guarded]
  obtain ⟨doc, start, created, named, kept, served, once, still⟩ : ∃ doc start,
      (empty {}).create "shop" "cart" (.object [("id", .string "c")]) ⟨0, 0⟩ "" = (.ok doc, start) ∧
      Document.id? doc = some place.id ∧
      start.successes (·.deletes place) [read, read, fill, clear, discard] = 0 ∧
      ((start.run [read, read]).perform fill).1.isOk = true ∧
      start.successes (·.updates place) [read, read, fill] = 1 ∧
      start.successes (·.updates place) [read, read, fill, clear] = 1 :=
    ⟨_, ((empty {}).create "shop" "cart" (.object [("id", .string "c")]) ⟨0, 0⟩ "").2, rfl, rfl,
      by decide +kernel⟩
  have serialised := serialised_of_created created named interleaving guarded kept
  -- One update has succeeded by then, so the version is no more the one that the second client names.
  have behindFill : [read, read, fill] <+: [read, read, fill, clear, discard] := ⟨_, rfl⟩
  have behindClear : [read, read, fill, clear] <+: [read, read, fill, clear, discard] := ⟨_, rfl⟩
  have filled := serialised.counted _ behindFill
  have unchanged := serialised.counted _ behindClear
  rw [once] at filled
  rw [still] at unchanged
  exact ⟨doc, start, created, named, interleaving, guarded, kept, serialised, served,
    serialised.refused _ clear 1 2 behindFill rfl filled (by decide),
    serialised.refused _ discard 1 2 behindClear rfl unchanged (by decide)⟩

end Store
end Storefront
