import Mathlib.Data.List.Basic
import Mathlib.Data.String.Basic
import Storefront.Text.Lowercase
import Storefront.Text.Search

/-!
Lower-casing of a text that stands inside of another one. Every character has its form by itself except
the capital sigma, which is final or not by what stands around it. So the form of a text changes with its
surroundings only if it has a sigma that looks beyond the text.
-/
namespace Storefront.Text

variable {before before' cs after after' front back rest : List Char} {c : Char}

/-! ### What a sigma looks at -/

def sigma : Char :=
  Char.ofNat 0x3a3

def sigmaForm (final : Bool) : Char :=
  if final then Char.ofNat 0x3c2 else Char.ofNat 0x3c3

theorem sigmaForm_inj {final final' : Bool} (same : sigmaForm final = sigmaForm final') :
    final = final' := by
  revert same
  cases final <;> cases final' <;> decide

/-- Whether a sigma is final between two texts, of which the one in front is given last first. -/
def isFinal (before after : List Char) : Bool :=
  meetsCased before && !meetsCased after

/-- A text is looked through as long as nothing in it counts for case. -/
theorem meetsCased_append (cs rest : List Char) :
    meetsCased (cs ++ rest) = if cs.all isCaseIgnorable then meetsCased rest else meetsCased cs := by
  induction cs with
  | nil => rfl
  | cons c cs ih =>
    cases ignored : isCaseIgnorable c with
    | true =>
      have through (cs : List Char) : meetsCased (c :: cs) = meetsCased cs := by
        rw [meetsCased, meetsCased, List.dropWhile_cons_of_pos ignored]
      rw [List.cons_append, through, ih, List.all_cons, ignored, Bool.true_and, through]
    | false =>
      have here (cs : List Char) : meetsCased (c :: cs) = isCased c := by
        rw [meetsCased, List.dropWhile_cons_of_neg (by simp [ignored])]
        rfl
      rw [List.cons_append, here, here, List.all_cons, ignored, Bool.false_and, if_neg (by decide)]

theorem meetsCased_of_all (ignored : cs.all isCaseIgnorable = true) : meetsCased cs = false := by
  have through := meetsCased_append cs []
  rwa [List.append_nil, if_pos ignored] at through

/-- The text has a sigma behind a cased letter and with nothing behind it that counts for case. It is final
unless a cased letter follows the text. -/
def LooksBehind (cs : List Char) : Prop :=
  ∃ front back, cs = front ++ sigma :: back ∧ meetsCased front.reverse = true ∧
    back.all isCaseIgnorable = true

/-- The text has a sigma with nothing before it that counts for case and no cased letter met behind it. It
is final only if a cased letter comes in front of the text. -/
def LooksBefore (cs : List Char) : Prop :=
  ∃ front back, cs = front ++ sigma :: back ∧ front.all isCaseIgnorable = true ∧
    meetsCased back = false

/-! ### Forms inside of a text -/

def lowerBetween (before : List Char) (c : Char) (after : List Char) : List Char :=
  if c = sigma then [sigmaForm (isFinal before after)] else lowerChar c

/-- The lower-case form of a text between two others, of which the one in front is given last first. -/
def lowerIn (before : List Char) : List Char → List Char → List Char
  | [], _ => []
  | c :: cs, after => lowerBetween before c (cs ++ after) ++ lowerIn (c :: before) cs after

theorem lowerFrom_cons (before : List Char) (c : Char) (rest : List Char) :
    lowerFrom before (c :: rest) = lowerBetween before c rest ++ lowerFrom (c :: before) rest := by
  have isSigma : c.toNat = 0x3a3 ↔ c = sigma := Char.toNat_inj (d := sigma)
  have form : (if meetsCased before && !meetsCased rest then [Char.ofNat 0x3c2]
      else [Char.ofNat 0x3c3]) = [sigmaForm (isFinal before rest)] :=
    (apply_ite (fun c : Char => [c]) _ _ _).symm
  rw [lowerFrom, lowerBetween]
  simp only [isSigma, form]

theorem lowerFrom_append (before cs rest : List Char) :
    lowerFrom before (cs ++ rest) = lowerIn before cs rest ++ lowerFrom (cs.reverse ++ before) rest := by
  induction cs generalizing before with
  | nil => rfl
  | cons c cs ih =>
    rw [List.cons_append, lowerFrom_cons, ih, lowerIn, List.append_assoc, List.reverse_cons,
      List.append_assoc]
    rfl

theorem lowerFrom_eq_lowerIn (before cs : List Char) : lowerFrom before cs = lowerIn before cs [] := by
  have whole := lowerFrom_append before cs []
  rwa [List.append_nil, lowerFrom, List.append_nil] at whole

theorem lower_eq_lowerIn (cs : List Char) : lower cs = lowerIn [] cs [] :=
  lowerFrom_eq_lowerIn [] cs

theorem length_lowerBetween :
    (lowerBetween before c after).length = (lowerBetween before' c after').length := by
  unfold lowerBetween
  split <;> rfl

theorem length_lowerIn : (lowerIn before cs after).length = (lowerIn before' cs after').length := by
  induction cs generalizing before before' with
  | nil => rfl
  | cons c cs ih => rw [lowerIn, lowerIn, List.length_append, List.length_append, length_lowerBetween, ih]

/-- A text has the same form in two places exactly if each of its sigmas is final in both or in none. -/
theorem lowerIn_eq_iff : lowerIn before cs after = lowerIn before' cs after' ↔
    ∀ front back, cs = front ++ sigma :: back →
      isFinal (front.reverse ++ before) (back ++ after) =
        isFinal (front.reverse ++ before') (back ++ after') := by
  induction cs generalizing before before' with
  | nil => simp [lowerIn]
  | cons c cs ih =>
    rw [lowerIn, lowerIn]
    constructor
    · intro same front back split
      obtain ⟨here, there⟩ := List.append_inj same length_lowerBetween
      cases front with
      | nil =>
        obtain ⟨rfl, rfl⟩ : c = sigma ∧ cs = back := List.cons_eq_cons.mp split
        rw [lowerBetween, lowerBetween, if_pos rfl, if_pos rfl, List.cons.injEq] at here
        exact sigmaForm_inj here.1
      | cons d front =>
        obtain ⟨rfl, rfl⟩ : c = d ∧ cs = front ++ sigma :: back := List.cons_eq_cons.mp split
        simpa using ih.mp there front back rfl
    · intro same
      have here : lowerBetween before c (cs ++ after) = lowerBetween before' c (cs ++ after') := by
        unfold lowerBetween
        split
        · next isSigma =>
          subst isSigma
          exact congrArg (fun final => [sigmaForm final]) (same [] cs rfl)
        · rfl
      have there : lowerIn (c :: before) cs after = lowerIn (c :: before') cs after' := by
        refine ih.mpr fun front back split => ?_
        simpa using same (c :: front) back (split ▸ rfl)
      rw [here, there]

/-- The surroundings count only by the cased letter that is met first in them. -/
theorem lowerIn_congr (sameBefore : meetsCased before = meetsCased before')
    (sameAfter : meetsCased after = meetsCased after') :
    lowerIn before cs after = lowerIn before' cs after' := by
  refine lowerIn_eq_iff.mpr fun front back _ => ?_
  simp only [isFinal, meetsCased_append, sameBefore, sameAfter]

/-! ### Texts that look beyond themselves -/

/-- A text that does not look beyond itself has one form everywhere. -/
theorem lowerIn_eq_lower (notBehind : ¬ LooksBehind cs) (notBefore : ¬ LooksBefore cs) :
    lowerIn before cs after = lower cs := by
  rw [lower_eq_lowerIn, lowerIn_eq_iff]
  intro front back split
  have inFront : front.all isCaseIgnorable = true → meetsCased back = true := fun ignored =>
    Bool.of_not_eq_false fun alone => notBefore ⟨front, back, split, ignored, alone⟩
  have behind : back.all isCaseIgnorable = true → meetsCased front.reverse = false := fun ignored =>
    Bool.eq_false_iff.mpr fun cased => notBehind ⟨front, back, split, cased, ignored⟩
  simp only [isFinal, meetsCased_append, List.append_nil, List.all_reverse]
  cases ignoredFront : front.all isCaseIgnorable with
  | true =>
    have cased := inFront ignoredFront
    have counts : back.all isCaseIgnorable = false := by
      by_contra ignored
      rw [meetsCased_of_all (Bool.of_not_eq_false ignored)] at cased
      contradiction
    simp [counts, cased]
  | false =>
    cases ignoredBack : back.all isCaseIgnorable with
    | true => simp [behind ignoredBack]
    | false => simp

/-- Behind a text that looks behind itself a cased letter changes its form, and nothing else does. -/
theorem lowerIn_nil_eq_lower_iff :
    lowerIn [] cs after = lower cs ↔ ¬ (LooksBehind cs ∧ meetsCased after = true) := by
  rw [lower_eq_lowerIn, lowerIn_eq_iff]
  simp only [isFinal, meetsCased_append, List.append_nil]
  constructor
  · rintro same ⟨⟨front, back, split, cased, ignored⟩, met⟩
    have final := same front back split
    simp [cased, ignored, met, meetsCased_of_all ignored] at final
  · intro closed front back split
    cases ignored : back.all isCaseIgnorable with
    | false => simp
    | true =>
      cases met : meetsCased after with
      | false => simp [meetsCased_of_all ignored]
      | true =>
        have uncased : meetsCased front.reverse = false := Bool.eq_false_iff.mpr fun cased =>
          closed ⟨⟨front, back, split, cased, ignored⟩, met⟩
        simp [uncased]

/-- The lower-case form of a beginning is the beginning of the form, unless its last sigma goes on. -/
theorem lower_prefix_iff :
    lower cs <+: lower (cs ++ rest) ↔ ¬ (LooksBehind cs ∧ meetsCased rest = true) := by
  have whole : lower (cs ++ rest) = lowerIn [] cs rest ++ lowerFrom (cs.reverse ++ []) rest :=
    lowerFrom_append [] cs rest
  rw [whole, ← lowerIn_nil_eq_lower_iff]
  constructor
  · rintro ⟨more, same⟩
    exact (List.append_inj same (lower_eq_lowerIn cs ▸ length_lowerIn)).1.symm
  · intro same
    rw [same]
    exact List.prefix_append _ _

theorem lower_infix (notBehind : ¬ LooksBehind cs) (notBefore : ¬ LooksBefore cs)
    (inside : cs <:+: rest) : lower cs <:+: lower rest := by
  obtain ⟨front, back, rfl⟩ := inside
  have whole : lower (front ++ cs ++ back) = lowerIn [] front (cs ++ back) ++
      (lowerIn (front.reverse ++ []) cs back ++ lowerFrom (cs.reverse ++ (front.reverse ++ [])) back) := by
    rw [List.append_assoc, lower, lowerFrom_append, lowerFrom_append]
  rw [whole, lowerIn_eq_lower notBehind notBefore, ← List.append_assoc]
  exact ⟨_, _, rfl⟩

/-! ### Texts in which a form is lost -/

/-- Where every sigma of one kind stays of that kind, the form is the same or has more of them. -/
theorem lowerIn_eq_or_count_lt {kind : Bool}
    (stays : ∀ front back, cs = front ++ sigma :: back →
      isFinal (front.reverse ++ before) (back ++ after) = kind →
      isFinal (front.reverse ++ before') (back ++ after') = kind) :
    lowerIn before cs after = lowerIn before' cs after' ∨
      (lowerIn before cs after).count (sigmaForm kind) <
        (lowerIn before' cs after').count (sigmaForm kind) := by
  induction cs generalizing before before' with
  | nil => exact .inl rfl
  | cons c cs ih =>
    have here : lowerBetween before c (cs ++ after) = lowerBetween before' c (cs ++ after') ∨
        (lowerBetween before c (cs ++ after)).count (sigmaForm kind) <
          (lowerBetween before' c (cs ++ after')).count (sigmaForm kind) := by
      by_cases isSigma : c = sigma
      · subst isSigma
        have stays : isFinal before (cs ++ after) = kind → isFinal before' (cs ++ after') = kind :=
          stays [] cs rfl
        rw [lowerBetween, lowerBetween, if_pos rfl, if_pos rfl]
        revert stays
        cases isFinal before (cs ++ after) <;> cases isFinal before' (cs ++ after') <;>
          cases kind <;> decide
      · simp only [lowerBetween, if_neg isSigma, true_or]
    have there : lowerIn (c :: before) cs after = lowerIn (c :: before') cs after' ∨
        (lowerIn (c :: before) cs after).count (sigmaForm kind) <
          (lowerIn (c :: before') cs after').count (sigmaForm kind) := by
      refine ih fun front back split final => ?_
      simpa using stays (c :: front) back (split ▸ rfl) (by simpa using final)
    rw [lowerIn, lowerIn]
    simp only [List.count_append]
    rcases here with here | here <;> rcases there with there | there
    · left
      rw [here, there]
    · right
      rw [here]
      omega
    · right
      rw [there]
      omega
    · right
      omega

/-- A text that looks beyond itself occurs somewhere without its form. -/
theorem exists_without_lower (looks : LooksBehind cs ∨ LooksBefore cs) :
    ∃ text, cs <:+: text ∧ ¬ lower cs <:+: lower text := by
  rcases looks with behind | ⟨front, back, split, ignored, alone⟩
  · have whole : lower (cs ++ ['a']) = lowerIn [] cs ['a'] ++ ['a'] := lowerFrom_append [] cs ['a']
    have changed : lowerIn [] cs ['a'] ≠ lower cs :=
      fun same => lowerIn_nil_eq_lower_iff.mp same ⟨behind, by decide⟩
    have fewer : (lowerIn [] cs ['a']).count (sigmaForm true) < (lower cs).count (sigmaForm true) := by
      rw [lower_eq_lowerIn] at changed ⊢
      refine (lowerIn_eq_or_count_lt fun front back _ final => ?_).resolve_left changed
      have cased : meetsCased ['a'] = true := by decide
      simp only [isFinal, meetsCased_append, List.append_nil, cased] at final ⊢
      cases counts : back.all isCaseIgnorable <;> simp [counts] at final ⊢
      exact final
    refine ⟨cs ++ ['a'], (List.prefix_append cs ['a']).isInfix, fun inside => ?_⟩
    have atMost := inside.sublist.count_le (sigmaForm true)
    have none : ['a'].count (sigmaForm true) = 0 := by decide
    rw [whole, List.count_append, none] at atMost
    omega
  · have whole : lower ('a' :: cs) = ['a'] ++ lowerIn ['a'] cs [] := by
      rw [lower, lowerFrom_cons, lowerFrom_eq_lowerIn]
      rfl
    have cased : meetsCased ['a'] = true := by decide
    have changed : lowerIn ['a'] cs [] ≠ lowerIn [] cs [] := by
      intro same
      have final := lowerIn_eq_iff.mp same front back split
      simp [isFinal, meetsCased_append, ignored, cased, alone, meetsCased_of_all] at final
    have fewer : (lowerIn ['a'] cs []).count (sigmaForm false) < (lower cs).count (sigmaForm false) := by
      rw [lower_eq_lowerIn]
      refine (lowerIn_eq_or_count_lt fun front back _ final => ?_).resolve_left changed
      simp only [isFinal, meetsCased_append, List.append_nil, cased, List.all_reverse] at final ⊢
      cases counts : front.all isCaseIgnorable with
      | true => simp [meetsCased_of_all, counts]
      | false => simpa [counts] using final
    refine ⟨'a' :: cs, (List.suffix_cons 'a' cs).isInfix, fun inside => ?_⟩
    have atMost := inside.sublist.count_le (sigmaForm false)
    have none : ['a'].count (sigmaForm false) = 0 := by decide
    rw [whole, List.count_append, none] at atMost
    omega

/-! ### Stars

A star is no letter and counts for case, so lower-casing keeps the pieces between stars apart. -/

theorem occursIn_iff : occursIn cs rest = true ↔ cs <:+: rest := by
  induction rest with
  | nil => rw [occursIn, List.isEmpty_iff, List.infix_nil]
  | cons c rest ih =>
    rw [occursIn, Bool.or_eq_true, List.isPrefixOf_iff_prefix, ih, List.infix_cons_iff]

theorem split_of_not_mem {separator : Char} (absent : separator ∉ cs) :
    split separator cs = [cs] := by
  induction cs with
  | nil => rfl
  | cons c cs ih =>
    obtain ⟨other, absent⟩ := List.ne_and_not_mem_of_not_mem_cons absent
    rw [split, if_neg (Ne.symm other), ih absent]

theorem split_append {separator : Char} (absent : separator ∉ cs) (rest : List Char) :
    split separator (cs ++ separator :: rest) = cs :: split separator rest := by
  induction cs with
  | nil => exact if_pos rfl
  | cons c cs ih =>
    obtain ⟨other, absent⟩ := List.ne_and_not_mem_of_not_mem_cons absent
    rw [List.cons_append, split, if_neg (Ne.symm other), ih absent]

theorem ofNat_ne_star {code : Nat} (high : 42 < code) : '*' ≠ Char.ofNat code := by
  intro same
  have value : (Char.ofNat code).toNat = code ∨ (Char.ofNat code).toNat = 0 := by
    unfold Char.ofNat
    by_cases valid : code.isValidChar
    · rw [dif_pos valid]
      exact .inl rfl
    · rw [dif_neg valid]
      exact .inr rfl
  have star : (Char.ofNat code).toNat = 42 := (congrArg Char.toNat same).symm
  omega

theorem star_not_mem_lowerChar (other : '*' ≠ c) : '*' ∉ lowerChar c := by
  unfold lowerChar
  split
  · split
    · next letter =>
      have low : 65 ≤ c.toNat := of_decide_eq_true (Bool.and_eq_true_iff.mp letter).1
      simpa using ofNat_ne_star (by omega)
    · simpa using other
  · split
    · decide
    · split
      · next run found =>
        have inTable : caseRuns.all (fun run => decide (42 < (run.first : Int) + run.offset)) = true := by
          decide +kernel
        have high := List.all_eq_true.mp inTable run (List.mem_of_find?_eq_some found)
        have begins := List.find?_some found
        simp only [CaseRun.holds, Bool.and_eq_true, decide_eq_true_eq] at high begins
        simpa using ofNat_ne_star (by omega)
      · simpa using other

theorem star_not_mem_lowerIn (absent : '*' ∉ cs) : '*' ∉ lowerIn before cs after := by
  induction cs generalizing before with
  | nil => exact absent
  | cons c cs ih =>
    obtain ⟨other, absent⟩ := List.ne_and_not_mem_of_not_mem_cons absent
    have here : '*' ∉ lowerBetween before c (cs ++ after) := by
      unfold lowerBetween
      split
      · cases isFinal before (cs ++ after) <;> decide
      · exact star_not_mem_lowerChar other
    rw [lowerIn, List.mem_append]
    exact not_or.mpr ⟨here, ih absent⟩

theorem lower_append_star (cs rest : List Char) :
    lower (cs ++ '*' :: rest) = lower cs ++ '*' :: lower rest := by
  have uncased (cs : List Char) : meetsCased ('*' :: cs) = meetsCased [] := rfl
  rw [lower, lowerFrom_append, lowerIn_congr rfl (uncased rest), ← lower_eq_lowerIn, lowerFrom_cons,
    lowerFrom_eq_lowerIn, lowerIn_congr (uncased _) rfl, ← lower_eq_lowerIn]
  rfl

/-- The pieces of a lower-cased text between stars are the lower-cased pieces. -/
theorem split_lower (cs : List Char) : split '*' (lower cs) = (split '*' cs).map lower := by
  by_cases starred : '*' ∈ cs
  · obtain ⟨piece, rest, same, absent⟩ := List.eq_append_cons_of_mem starred
    have shorter : rest.length < cs.length := by
      rw [same, List.length_append, List.length_cons]
      omega
    have absent' : '*' ∉ lower piece := lower_eq_lowerIn piece ▸ star_not_mem_lowerIn absent
    rw [same, lower_append_star, split_append absent', split_append absent, split_lower rest, List.map_cons]
  · have absent' : '*' ∉ lower cs := lower_eq_lowerIn cs ▸ star_not_mem_lowerIn starred
    rw [split_of_not_mem absent', split_of_not_mem starred, List.map_singleton]
termination_by cs.length

end Storefront.Text
