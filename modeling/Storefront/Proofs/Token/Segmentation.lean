import Storefront.Proofs.Predicate.Grouping

/-!
Cutting a text is taking the first rule that matches something, again and again. The pieces taken are
the text, in order; those of rules that are not skipped are the tokens, and a text that cannot be
cut is reported from the place on at which no rule matches anything.
-/
namespace Storefront.Lexicon

/-- A piece of a text, with the rule that took it and the byte at which it begins. -/
structure Piece (κ : Type) where
  rule : TokenRule κ
  chars : List Char
  offset : Nat

variable {κ : Type}

namespace Piece

def token (piece : Piece κ) : Token κ :=
  ⟨piece.rule.kind, String.ofList piece.chars, piece.offset⟩

/-- The byte behind a piece. -/
def ending (piece : Piece κ) : Nat :=
  piece.offset + byteLength piece.chars

end Piece

/-- The tokens among some pieces. -/
def emitted (pieces : List (Piece κ)) : List (Token κ) :=
  (pieces.filter fun piece => !piece.rule.skipped).map Piece.token

/-- No rule of a table matches something at the front of a text. -/
def Stuck (lexicon : Lexicon κ) (cs : List Char) : Prop :=
  ∀ rule ∈ lexicon, ∀ n, rule.pattern cs = some n → n = 0

/-- The first rule of a table that matches something in front of `rest` takes `chars`. -/
structure FirstTakes (lexicon : Lexicon κ) (rule : TokenRule κ) (chars rest : List Char) : Prop where
  nonempty : chars ≠ []
  matches_all : rule.pattern (chars ++ rest) = some chars.length
  first : ∃ before behind, lexicon = before ++ rule :: behind ∧ Stuck before (chars ++ rest)

/-- Taking the first rule that matches something, for some times, leads from a text to a rest. -/
inductive Segments (lexicon : Lexicon κ) : Nat → List Char → List (Piece κ) → List Char → Prop
  | done (offset : Nat) (cs : List Char) : Segments lexicon offset cs [] cs
  | take {offset : Nat} {rule : TokenRule κ} {chars rest last : List Char} {pieces : List (Piece κ)}
      (takes : lexicon.FirstTakes rule chars rest)
      (further : Segments lexicon (offset + byteLength chars) rest pieces last) :
      Segments lexicon offset (chars ++ rest) (⟨rule, chars, offset⟩ :: pieces) last

section FirstMatch
variable {lexicon : Lexicon κ} {cs : List Char} {rule : TokenRule κ} {n : Nat}

theorem stuck_cons_iff : Stuck (rule :: lexicon) cs ↔
    (∀ n, rule.pattern cs = some n → n = 0) ∧ Stuck lexicon cs :=
  List.forall_mem_cons

theorem firstMatch?_eq_none_iff : lexicon.firstMatch? cs = none ↔ lexicon.Stuck cs := by
  induction lexicon with
  | nil => simp [firstMatch?, Stuck]
  | cons first rules ih =>
    rw [stuck_cons_iff, ← ih, firstMatch?]
    split
    · rename_i n taken
      simp [taken]
    · rename_i nothing
      refine ⟨fun none => ⟨fun n taken => ?_, none⟩, And.right⟩
      cases n with
      | zero => rfl
      | succ n => exact absurd taken (nothing n)

theorem firstMatch?_eq_some_iff : lexicon.firstMatch? cs = some (rule, n) ↔
    0 < n ∧ rule.pattern cs = some n ∧
      ∃ before behind, lexicon = before ++ rule :: behind ∧ Stuck before cs := by
  constructor
  · intro found
    refine ⟨firstMatch?_pos found, (mem_of_firstMatch? found).2, ?_⟩
    induction lexicon with
    | nil => contradiction
    | cons first rules ih =>
      rw [firstMatch?] at found
      split at found
      · cases found
        exact ⟨[], rules, rfl, by simp [Stuck]⟩
      · rename_i nothing
        obtain ⟨before, behind, split, stuck⟩ := ih found
        refine ⟨first :: before, behind, congrArg _ split, stuck_cons_iff.2 ⟨fun n taken => ?_, stuck⟩⟩
        cases n with
        | zero => rfl
        | succ n => exact absurd taken (nothing n)
  · rintro ⟨positive, taken, before, behind, rfl, stuck⟩
    obtain ⟨m, rfl⟩ := Nat.exists_eq_succ_of_ne_zero (Nat.ne_of_gt positive)
    induction before with
    | nil => exact firstMatch?_some taken
    | cons first before ih =>
      obtain ⟨nothing, stuck⟩ := stuck_cons_iff.1 stuck
      rw [List.cons_append, firstMatch?]
      split
      · rename_i n matched
        cases nothing _ matched
      · exact ih stuck

theorem FirstTakes.firstMatch? {chars rest : List Char} (takes : lexicon.FirstTakes rule chars rest) :
    lexicon.firstMatch? (chars ++ rest) = some (rule, chars.length) :=
  firstMatch?_eq_some_iff.2 ⟨List.length_pos_iff.2 takes.nonempty, takes.matches_all, takes.first⟩

/-- What matches first takes its part of the text. -/
theorem firstTakes_of_firstMatch? (bounded : ∀ rule ∈ lexicon, Pattern.Bounded rule.pattern)
    (found : lexicon.firstMatch? cs = some (rule, n)) :
    lexicon.FirstTakes rule (cs.take n) (cs.drop n) := by
  obtain ⟨positive, taken, first⟩ := firstMatch?_eq_some_iff.1 found
  have length : (cs.take n).length = n := List.length_take_of_le (firstMatch?_le bounded found)
  rw [← List.take_append_drop n cs] at taken first
  refine ⟨?_, length.symm ▸ taken, first⟩
  exact List.length_pos_iff.1 (length.symm ▸ positive)

end FirstMatch

theorem byteLength_append (front back : List Char) :
    byteLength (front ++ back) = byteLength front + byteLength back := by
  induction front with
  | nil => simp [byteLength]
  | cons c front ih => simp only [List.cons_append, byteLength, ih, Nat.add_assoc]

theorem byteLength_pos {cs : List Char} (nonempty : cs ≠ []) : 0 < byteLength cs := by
  cases cs with
  | nil => contradiction
  | cons c cs =>
    have := c.utf8Size_pos
    rw [byteLength]
    omega

theorem emitted_cons (piece : Piece κ) (pieces : List (Piece κ)) :
    emitted (piece :: pieces) =
      if piece.rule.skipped then emitted pieces else piece.token :: emitted pieces := by
  cases skipped : piece.rule.skipped <;> simp [emitted, skipped]

theorem mem_emitted_iff {token : Token κ} {pieces : List (Piece κ)} :
    token ∈ emitted pieces ↔ ∃ piece ∈ pieces, piece.rule.skipped = false ∧ piece.token = token := by
  simp [emitted, and_assoc]

namespace Segments
variable {lexicon : Lexicon κ} {offset : Nat} {cs last : List Char} {pieces : List (Piece κ)}

/-- The pieces are what the text begins with. -/
theorem eq_append (segments : lexicon.Segments offset cs pieces last) :
    cs = pieces.flatMap Piece.chars ++ last := by
  induction segments with
  | done => rfl
  | take takes further ih => rw [List.flatMap_cons, List.append_assoc, ← ih]

/-- Cutting a text goes on behind its pieces, and the tokens among them come first. -/
theorem tokensFrom_eq (segments : lexicon.Segments offset cs pieces last) :
    ∃ reached, lexicon.tokensFrom offset cs =
      (lexicon.tokensFrom reached last).map (emitted pieces ++ ·) := by
  induction segments with
  | done offset cs =>
    refine ⟨offset, ?_⟩
    cases lexicon.tokensFrom offset cs <;> rfl
  | @take offset rule chars rest last pieces takes further ih =>
    obtain ⟨reached, ih⟩ := ih
    refine ⟨reached, ?_⟩
    rw [tokensFrom_append takes.firstMatch?, ih, emitted_cons]
    cases lexicon.tokensFrom reached last with
    | error e => rfl
    | ok tokens => by_cases skipped : rule.skipped = true <;> simp [Except.map, skipped, Piece.token]

theorem tokensFrom_of_end (segments : lexicon.Segments offset cs pieces []) :
    lexicon.tokensFrom offset cs = .ok (emitted pieces) := by
  obtain ⟨reached, cut⟩ := segments.tokensFrom_eq
  rw [cut, tokensFrom_nil]
  simp [Except.map]

theorem tokensFrom_of_stuck (segments : lexicon.Segments offset cs pieces last)
    (nonempty : last ≠ []) (stuck : lexicon.Stuck last) :
    lexicon.tokensFrom offset cs = .error (.badText .unrecognised (fragment last)) := by
  obtain ⟨reached, cut⟩ := segments.tokensFrom_eq
  have none := firstMatch?_eq_none_iff.2 stuck
  rw [cut, tokensFrom, dif_neg nonempty]
  split
  · rfl
  · rename_i found
    rw [none] at found
    contradiction

/-- Each piece stands in the text where its offset says. -/
theorem stands (segments : lexicon.Segments offset cs pieces last) {piece : Piece κ}
    (member : piece ∈ pieces) :
    ∃ before behind, cs = before ++ piece.chars ++ behind ∧
      piece.offset = offset + byteLength before := by
  induction segments with
  | done => contradiction
  | @take offset rule chars rest last pieces takes further ih =>
    rcases List.mem_cons.1 member with rfl | later
    · exact ⟨[], rest, rfl, rfl⟩
    · obtain ⟨before, behind, split, place⟩ := ih later
      refine ⟨chars ++ before, behind, ?_, ?_⟩
      · rw [split, List.append_assoc, List.append_assoc, List.append_assoc]
      · rw [place, byteLength_append, Nat.add_assoc]

theorem chars_ne_nil (segments : lexicon.Segments offset cs pieces last) {piece : Piece κ}
    (member : piece ∈ pieces) : piece.chars ≠ [] := by
  induction segments with
  | done => contradiction
  | take takes further ih =>
    rcases List.mem_cons.1 member with rfl | later
    · exact takes.nonempty
    · exact ih later

/-- Each piece ends before the next one begins. -/
theorem pairwise (segments : lexicon.Segments offset cs pieces last) :
    pieces.Pairwise fun first second => first.ending ≤ second.offset := by
  induction segments with
  | done => exact .nil
  | take takes further ih =>
    refine List.pairwise_cons.2 ⟨fun later member => ?_, ih⟩
    obtain ⟨before, -, -, place⟩ := further.stands member
    rw [place, Piece.ending]
    exact Nat.le_add_right _ _

/-- Every byte of the text up to the rest is in a piece. -/
theorem covers (segments : lexicon.Segments offset cs pieces last) {position : Nat}
    (atLeast : offset ≤ position)
    (inside : position < offset + byteLength (pieces.flatMap Piece.chars)) :
    ∃ piece ∈ pieces, piece.offset ≤ position ∧ position < piece.ending := by
  induction segments with
  | done =>
    simp only [List.flatMap_nil, byteLength] at inside
    omega
  | @take offset rule chars rest last pieces takes further ih =>
    rcases Nat.lt_or_ge position (offset + byteLength chars) with here | behind
    · exact ⟨_, List.mem_cons_self, atLeast, here⟩
    · rw [List.flatMap_cons, byteLength_append, ← Nat.add_assoc] at inside
      obtain ⟨piece, member, within⟩ := ih behind inside
      exact ⟨piece, List.mem_cons_of_mem _ member, within⟩

end Segments

/-- Taking the first rule that matches something leads to the end, or to where no rule does. -/
theorem exists_segments {lexicon : Lexicon κ}
    (bounded : ∀ rule ∈ lexicon, Pattern.Bounded rule.pattern) (offset : Nat) (cs : List Char) :
    ∃ pieces last, lexicon.Segments offset cs pieces last ∧
      (last = [] ∨ last ≠ [] ∧ lexicon.Stuck last) := by
  rcases eq_or_ne cs [] with rfl | nonempty
  · exact ⟨[], [], .done offset [], .inl rfl⟩
  cases found : lexicon.firstMatch? cs with
  | none => exact ⟨[], cs, .done offset cs, .inr ⟨nonempty, firstMatch?_eq_none_iff.1 found⟩⟩
  | some taken =>
    obtain ⟨rule, n⟩ := taken
    have takes := firstTakes_of_firstMatch? bounded found
    obtain ⟨pieces, last, further, ends⟩ :=
      exists_segments bounded (offset + byteLength (cs.take n)) (cs.drop n)
    have segments := Segments.take takes further
    rw [List.take_append_drop] at segments
    exact ⟨_, last, segments, ends⟩
termination_by cs.length
decreasing_by
  have := firstMatch?_pos found
  have := List.length_pos_iff.2 nonempty
  simp only [List.length_drop]
  omega

/-- What tokens have to do with the text and the pieces it was cut into. -/
structure Lays (source : String) (pieces : List (Piece κ)) (tokens : List (Token κ)) : Prop where
  whole : String.ofList (pieces.flatMap Piece.chars) = source
  kept : tokens.map (fun token => (token.kind, token.text)) =
    (pieces.filter fun piece => !piece.rule.skipped).map fun piece =>
      (piece.rule.kind, String.ofList piece.chars)
  stands : ∀ token ∈ tokens, ∃ before behind, source = before ++ token.text ++ behind ∧
    token.offset = before.utf8ByteSize
  ascend : tokens.Pairwise fun first second => first.offset < second.offset ∧
    first.offset + first.text.utf8ByteSize ≤ second.offset
  between : ∀ position < source.utf8ByteSize,
    (∃ token ∈ tokens, token.offset ≤ position ∧
      position < token.offset + token.text.utf8ByteSize) ∨
    ∃ piece ∈ pieces, piece.rule.skipped = true ∧ piece.offset ≤ position ∧ position < piece.ending

theorem Piece.utf8ByteSize_token (piece : Piece κ) :
    piece.token.text.utf8ByteSize = byteLength piece.chars := by
  rw [← byteLength_toList, token, String.toList_ofList]

theorem Segments.lays {lexicon : Lexicon κ} {source : String} {pieces : List (Piece κ)}
    (segments : lexicon.Segments 0 source.toList pieces []) : Lays source pieces (emitted pieces) := by
  have whole : source.toList = pieces.flatMap Piece.chars := by
    simpa using segments.eq_append
  constructor
  · rw [← whole, String.ofList_toList]
  · rw [emitted, List.map_map]
    rfl
  · intro token member
    obtain ⟨piece, among, -, rfl⟩ := mem_emitted_iff.1 member
    obtain ⟨before, behind, split, place⟩ := segments.stands among
    refine ⟨String.ofList before, String.ofList behind, ?_, ?_⟩
    · rw [Piece.token, ← String.ofList_append, ← String.ofList_append, ← split, String.ofList_toList]
    · rw [Piece.token, place, Nat.zero_add, ← byteLength_toList, String.toList_ofList]
  · apply List.pairwise_map.2
    apply List.Pairwise.filter
    apply segments.pairwise.imp_of_mem
    intro first second among _ apart
    have positive := byteLength_pos (segments.chars_ne_nil among)
    rw [first.utf8ByteSize_token]
    simp only [Piece.ending] at apart
    simp only [Piece.token]
    omega
  · intro position inside
    rw [← byteLength_toList, whole] at inside
    obtain ⟨piece, among, within⟩ := segments.covers (Nat.zero_le position) (by simpa using inside)
    cases skipped : piece.rule.skipped with
    | true => exact .inr ⟨piece, among, skipped, within⟩
    | false =>
      refine .inl ⟨piece.token, mem_emitted_iff.2 ⟨piece, among, skipped, rfl⟩, within.1, ?_⟩
      rw [piece.utf8ByteSize_token]
      exact within.2

/-- A text is cut exactly if taking the first rule that matches something leads to its end. The tokens
are the pieces that are not skipped, and a text that is not cut is reported from the place on where
no rule matches anything. -/
theorem tokenizing_is_segmentation {lexicon : Lexicon κ}
    (bounded : ∀ rule ∈ lexicon, Pattern.Bounded rule.pattern) (source : String) :
    (∀ tokens, lexicon.tokenize source = .ok tokens ↔
      ∃ pieces, lexicon.Segments 0 source.toList pieces [] ∧ tokens = emitted pieces) ∧
    (∀ pieces, lexicon.Segments 0 source.toList pieces [] → Lays source pieces (emitted pieces)) ∧
    (∀ e, lexicon.tokenize source = .error e ↔
      ∃ pieces last, lexicon.Segments 0 source.toList pieces last ∧ last ≠ [] ∧
        lexicon.Stuck last ∧ e = .badText .unrecognised (String.ofList (last.take 24))) := by
  have succeeds {pieces : List (Piece κ)} (segments : lexicon.Segments 0 source.toList pieces []) :
      lexicon.tokenize source = .ok (emitted pieces) := segments.tokensFrom_of_end
  have fails {pieces : List (Piece κ)} {last : List Char}
      (segments : lexicon.Segments 0 source.toList pieces last) (nonempty : last ≠ [])
      (stuck : lexicon.Stuck last) :
      lexicon.tokenize source = .error (.badText .unrecognised (String.ofList (last.take 24))) :=
    segments.tokensFrom_of_stuck nonempty stuck
  obtain ⟨pieces, last, segments, ends⟩ := exists_segments bounded 0 source.toList
  refine ⟨fun tokens => ⟨fun cut => ?_, ?_⟩, fun _ segments => segments.lays,
    fun e => ⟨fun failed => ?_, ?_⟩⟩
  · rcases ends with rfl | ⟨nonempty, stuck⟩
    · exact ⟨pieces, segments, Except.ok.inj (cut.symm.trans (succeeds segments))⟩
    · exact nomatch cut.symm.trans (fails segments nonempty stuck)
  · rintro ⟨pieces, segments, rfl⟩
    exact succeeds segments
  · rcases ends with rfl | ⟨nonempty, stuck⟩
    · exact nomatch failed.symm.trans (succeeds segments)
    · exact ⟨pieces, last, segments, nonempty, stuck,
        Except.error.inj (failed.symm.trans (fails segments nonempty stuck))⟩
  · rintro ⟨pieces, last, segments, nonempty, stuck, rfl⟩
    exact fails segments nonempty stuck

/-- Offsets count bytes: the accented letter takes two of them. -/
theorem tokenizing_is_segmentation_of_accents :
    let source := "f = \"é\" or g"
    (∀ rule ∈ Predicate.lexicon, Pattern.Bounded rule.pattern) ∧
      ∃ pieces, Predicate.lexicon.Segments 0 source.toList pieces [] ∧
        (emitted pieces).map (fun token => (token.kind, token.text, token.offset)) =
          [(.identifier, "f", 0), (.eq, "=", 2), (.str, "\"é\"", 4), (.or, "or", 9),
            (.identifier, "g", 12)] := by
  intro source
  refine ⟨Predicate.bounded_lexicon, ?_⟩
  have cut : (Predicate.lexicon.tokenize source).toOption.map
      (·.map fun token => (token.kind, token.text, token.offset)) =
      some [(.identifier, "f", 0), (.eq, "=", 2), (.str, "\"é\"", 4), (.or, "or", 9),
        (.identifier, "g", 12)] := by
    decide +kernel
  cases found : Predicate.lexicon.tokenize source with
  | error e =>
    rw [found] at cut
    contradiction
  | ok tokens =>
    rw [found] at cut
    obtain ⟨pieces, segments, rfl⟩ :=
      ((tokenizing_is_segmentation Predicate.bounded_lexicon source).1 tokens).1 found
    exact ⟨pieces, segments, Option.some.inj cut⟩

end Storefront.Lexicon
