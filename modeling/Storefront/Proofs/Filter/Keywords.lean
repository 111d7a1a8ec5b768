import Storefront.Proofs.Filter.Writing

/-!
Words of the language in front of a path. A word ends wherever no character of a word follows, and a path
goes on behind such an end with a hyphen or a point. A path that begins so is cut behind the word, and no
filter on it compiles; every other path that is not such a word is kept whole.
-/
namespace Storefront

namespace Pattern

/-! ### The characters of a path -/

/-- A character passes the test of a run or stands behind the run. -/
theorem passes_or_behind {p : Char → Bool} {cs : List Char} {c : Char} (mem : c ∈ cs) :
    p c = true ∨ c ∈ cs.drop (cs.takeWhile p).length := by
  induction cs with
  | nil => contradiction
  | cons first cs ih =>
    cases passes : p first with
    | false =>
      rw [List.takeWhile_cons_of_neg (by simp [passes])]
      exact .inr mem
    | true =>
      rw [List.takeWhile_cons_of_pos passes, List.length_cons, List.drop_succ_cons]
      rcases List.mem_cons.mp mem with rfl | mem
      · exact .inl passes
      · exact ih mem

/-- Segments that make up a whole text have no other characters than segments and points have. -/
theorem segments_characters {length : Nat} {cs : List Char}
    (full : segments length cs = length + cs.length) :
    ∀ c ∈ cs, isSegmentRest c = true ∨ c = '.' := by
  fun_induction segments length cs with
  | case1 length behind empty =>
    rw [List.length_cons] at full
    omega
  | case2 length behind n taken ih =>
    have within := (List.takeWhile_prefix isSegmentRest (l := behind)).length_le
    rw [List.length_cons] at full
    intro c mem
    rcases List.mem_cons.mp mem with rfl | mem
    · exact .inr rfl
    rcases passes_or_behind mem with inside | back
    · exact .inl inside
    · rw [taken] at back
      refine ih ?_ c back
      rw [List.length_drop]
      omega
  | case3 length cs other =>
    obtain rfl : cs = [] := List.eq_nil_of_length_eq_zero (by omega)
    exact fun _ none => absurd none List.not_mem_nil

theorem path_characters {cs : List Char} (full : path cs = some cs.length) :
    ∀ c ∈ cs, isSegmentRest c = true ∨ c = '.' := by
  cases cs with
  | nil => exact fun _ none => absurd none List.not_mem_nil
  | cons first cs =>
    rw [path] at full
    split at full
    · next starts =>
      have within : (cs.takeWhile isSegmentRest).length ≤ cs.length :=
        (List.takeWhile_prefix isSegmentRest).length_le
      have whole := Option.some.inj full
      rw [Nat.add_comm 1, List.drop_succ_cons, List.length_cons] at whole
      intro c mem
      rcases List.mem_cons.mp mem with rfl | mem
      · exact .inl (by simp [isSegmentRest, isNameRest, starts])
      rcases passes_or_behind mem with inside | back
      · exact .inl inside
      · refine segments_characters (whole.trans ?_) c back
        rw [List.length_drop]
        omega
    · contradiction

/-- Where a word ends inside of a path, a hyphen or a point follows. -/
theorem hyphen_or_point {cs : List Char} (full : path cs = some cs.length) {c : Char} (mem : c ∈ cs)
    (other : Text.isWord c = false) : c = '-' ∨ c = '.' := by
  rcases path_characters full c mem with inside | point
  · rw [isSegmentRest, Bool.or_eq_true, decide_eq_true_eq] at inside
    rcases inside with word | hyphen
    · exact absurd (isWord_of_isNameRest word) (by simp [other])
    · exact .inl hyphen
  · exact .inr point

end Pattern

namespace Filter
variable {path : String}

/-! ### Words in front -/

/-- A word of the language stands in front, and a hyphen or a point behind it. -/
def RunsOn (path : String) : Prop :=
  ∃ word ∈ words, word.2.toList ++ ['-'] <+: path.toList ∨ word.2.toList ++ ['.'] <+: path.toList

instance (path : String) : Decidable (RunsOn path) :=
  inferInstanceAs (Decidable (∃ word ∈ words,
    word.2.toList ++ ['-'] <+: path.toList ∨ word.2.toList ++ ['.'] <+: path.toList))

/-- Apart from the words themselves, only what runs on from one begins with one. -/
theorem isFieldPath_of_not_runsOn (full : Pattern.path path.toList = some path.toList.length)
    (notWord : ∀ word ∈ words, path ≠ word.2) (free : ¬ RunsOn path) : IsFieldPath path := by
  refine ⟨full, fun word reserved leading => ?_⟩
  rw [leadingWord_eq] at leading
  have split := List.takeWhile_append_dropWhile (p := Text.isWord) (l := path.toList)
  rw [leading] at split
  cases behind : path.toList.dropWhile Text.isWord with
  | nil =>
    rw [behind, List.append_nil] at split
    exact notWord word reserved (String.toList_injective split.symm)
  | cons c rest =>
    have nonempty : path.toList.dropWhile Text.isWord ≠ [] := by simp [behind]
    have other : Text.isWord c = false := by
      have stops := List.head_dropWhile_not Text.isWord nonempty
      simpa only [behind, List.head_cons] using stops
    have mem : c ∈ path.toList := by
      rw [← split, behind]
      exact List.mem_append_right _ List.mem_cons_self
    rw [behind, List.append_cons] at split
    apply free
    rcases Pattern.hyphen_or_point full mem other with rfl | rfl
    · exact ⟨word, reserved, .inl ⟨rest, split⟩⟩
    · exact ⟨word, reserved, .inr ⟨rest, split⟩⟩

/-- A word in front of a text that goes on with another character is its first token, so the text is no
filter. -/
theorem compile_of_word {kind : Kind} {word : String} (reserved : (kind, word) ∈ words)
    (rest : List Char) (ends : Pattern.atWordEnd rest = true) {source : String}
    (split : source.toList = word.toList ++ rest) :
    ∃ fault piece, compile source = .error (.badText fault piece) := by
  have failure := ensures_compile source
  cases compiled : compile source with
  | error error =>
    rw [compiled] at failure
    obtain ⟨fault, piece, rfl⟩ := failure
    exact ⟨fault, piece, rfl⟩
  | ok filter =>
    obtain ⟨tokens, cut, derives, -⟩ := compile_eq_ok_iff.mp compiled
    obtain ⟨rule, found, sameKind, kept⟩ := takes_word reserved ends
    have step := Lexicon.tokensFrom_append found 0
    rw [Lexicon.tokenize, split, step] at cut
    have others : ∀ word ∈ words, word.1 ≠ .path := by decide
    cases further : lexicon.tokensFrom (0 + byteLength word.toList) rest with
    | error error =>
      rw [further] at cut
      contradiction
    | ok later =>
      rw [further, Except.map, kept, if_neg Bool.false_ne_true] at cut
      cases cut
      cases derives with
      | clause path => exact absurd (sameKind.symm.trans path) (others _ reserved)

theorem compile_of_runsOn (runs : RunsOn path) (behind : String) :
    ∃ fault piece, compile (path ++ behind) = .error (.badText fault piece) := by
  obtain ⟨⟨kind, word⟩, reserved, ⟨rest, split⟩ | ⟨rest, split⟩⟩ := runs
  · refine compile_of_word reserved ('-' :: (rest ++ behind.toList)) rfl ?_
    rw [String.toList_append, ← split]
    simp
  · refine compile_of_word reserved ('.' :: (rest ++ behind.toList)) rfl ?_
    rw [String.toList_append, ← split]
    simp

/-! ### Paths that exist -/

theorem compile_exists (isPath : IsFieldPath path) :
    compile (path ++ ":exists") = .ok ⟨path, .presence [true]⟩ := by
  have noGap : [].all Text.isBlank = true := rfl
  have items : LaidOut (Items.presence [true]).lexemes "exists".toList :=
    .cons noGap (fun _ => by decide) (.nil noGap)
  have behind : LaidOut (⟨.colon, ":"⟩ :: (Items.presence [true]).lexemes) ":exists".toList :=
    .cons noGap (fun ends => absurd ends (by decide)) items
  have laid : LaidOut (written path (.presence [true])) (path ++ ":exists").toList := by
    rw [String.toList_append]
    exact .cons noGap (fun _ => by decide) behind
  obtain ⟨tokens, cut, same⟩ := (cut_written isPath laid).tokensFrom 0
  obtain ⟨derives, once⟩ := derives_written rfl same
  exact compile_eq_ok_iff.mpr ⟨tokens, cut, derives, once⟩

/-- A text that is a path in full and no word of the language compiles with a condition behind it, and to
that path, exactly if it does not run on from such a word. One that does is refused whatever stands behind
it. -/
theorem path_kept_unless_word_runs_on (full : Pattern.path path.toList = some path.toList.length)
    (notWord : ∀ word ∈ words, path ≠ word.2) :
    ((∃ filter, compile (path ++ ":exists") = .ok filter ∧ filter.path = path) ↔ ¬ RunsOn path) ∧
    (¬ RunsOn path → compile (path ++ ":exists") = .ok ⟨path, .presence [true]⟩) ∧
    (RunsOn path → ∀ behind, ∃ fault piece,
      compile (path ++ behind) = .error (.badText fault piece)) := by
  have kept (free : ¬ RunsOn path) : compile (path ++ ":exists") = .ok ⟨path, .presence [true]⟩ :=
    compile_exists (isFieldPath_of_not_runsOn full notWord free)
  refine ⟨⟨?_, fun free => ⟨_, kept free, rfl⟩⟩, kept, compile_of_runsOn⟩
  rintro ⟨filter, compiled, -⟩ runs
  obtain ⟨fault, piece, failed⟩ := compile_of_runsOn runs ":exists"
  exact nomatch compiled.symm.trans failed

/-- A word goes on as a longer name, or stands in front of a hyphen. -/
theorem path_kept_unless_word_runs_on_behind_hyphen :
    let full (path : String) := Pattern.path path.toList = some path.toList.length
    let reserved (path : String) := ∃ word ∈ words, path = word.2
    (full "existsAt.range-to" ∧ ¬ reserved "existsAt.range-to" ∧ ¬ RunsOn "existsAt.range-to" ∧
      compile "existsAt.range-to:exists" = .ok ⟨"existsAt.range-to", .presence [true]⟩) ∧
    full "missing-parts" ∧ ¬ reserved "missing-parts" ∧ RunsOn "missing-parts" ∧
      ¬ ∃ filter, compile "missing-parts:exists" = .ok filter ∧ filter.path = "missing-parts" := by
  intro full reserved
  have fullKept : full "existsAt.range-to" := by with_unfolding_all rfl
  have fullRefused : full "missing-parts" := by with_unfolding_all rfl
  have free : ¬ RunsOn "existsAt.range-to" := by decide
  have runs : RunsOn "missing-parts" := by decide
  have kept := path_kept_unless_word_runs_on fullKept (by decide)
  have refused := path_kept_unless_word_runs_on fullRefused (by decide)
  exact ⟨⟨fullKept, by decide, free, kept.2.1 free⟩, fullRefused, by decide, runs,
    fun found => refused.1.mp found runs⟩

/-- The word `range` ends in front of the point, and nothing begins with what is behind it. -/
theorem word_cut_off_path :
    Pattern.path "range.min".toList = some "range.min".toList.length ∧
    (∀ word ∈ words, "range.min" ≠ word.2) ∧
    compile "range.min:exists" = .error (.badText .unrecognised ".min:exists") := by
  refine ⟨by with_unfolding_all rfl, by decide, ?_⟩
  with_unfolding_all rfl

end Filter
end Storefront
