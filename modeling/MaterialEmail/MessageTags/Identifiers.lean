import MaterialEmail.MessageTags.Model
import Mathlib.Data.List.Nodup
import Mathlib.Data.List.Perm.Subperm

/-! The identifiers that tags are given. -/
namespace MessageTags

open JsString

variable {host : Host} {name text front back candidate : JsString} {taken : List JsString} {suffix : Nat}

section Texts

/-- A symbol of an identifier. -/
def IsTagIdPoint (host : Host) (point : JsString) : Prop := host.isLetterOrNumber point = true ∨ point = [45]

theorem isTagIdText_iff : isTagIdText host text = true ↔ ∀ point ∈ characters text, IsTagIdPoint host point := by
  simp [isTagIdText, IsTagIdPoint]

theorem isTagIdText_append (host : Host) (clean : ¬ PartsPair front back) :
    isTagIdText host (front ++ back) = (isTagIdText host front && isTagIdText host back) := by
  simp only [isTagIdText, characters_append clean, List.all_append]

/-- A symbol that stands for half of a pair alone is none of an identifier. -/
theorem surrogate_not_point {unit : UInt16} (surrogate : (isHighSurrogate unit || isLowSurrogate unit) = true) :
    ¬ IsTagIdPoint host [unit] := by
  rintro (letter | dash)
  · rw [host.surrogate_letter unit surrogate] at letter
    cases letter
  · obtain rfl : unit = 45 := by simpa using dash
    revert surrogate
    decide

theorem whole_of_point {point : JsString} (member : point ∈ characters text) (isPoint : IsTagIdPoint host point) :
    point.Whole := by
  rcases mem_characters member with ⟨unit, rfl⟩ | whole
  · cases surrogate : isHighSurrogate unit || isLowSurrogate unit with
    | true => exact absurd isPoint (surrogate_not_point surrogate)
    | false =>
      rw [Bool.or_eq_false_iff] at surrogate
      exact .unit unit surrogate.1 surrogate.2
  · exact whole

theorem last_high {unit : UInt16} (last : text.getLast? = some unit) (high : isHighSurrogate unit = true) :
    [unit] ∈ characters text := by
  induction text using characters.induct with
  | case1 first second rest isPair ih =>
    rw [characters, if_pos isPair]
    cases rest with
    | nil =>
      -- The last unit would be the low half of the pair.
      obtain rfl : second = unit := by simpa using last
      rw [Bool.and_eq_true] at isPair
      simp only [isHighSurrogate, isLowSurrogate, Bool.and_eq_true, decide_eq_true_eq, UInt16.le_iff_toNat_le,
        UInt16.reduceToNat] at high isPair
      omega
    | cons third rest => exact List.mem_cons_of_mem _ (ih last)
  | case2 first second rest single ih =>
    rw [characters, if_neg single]
    exact List.mem_cons_of_mem _ (ih last)
  | case3 first =>
    obtain rfl : first = unit := by simpa using last
    exact List.mem_singleton_self _
  | case4 => cases last

/-- What is cut off at a limit is a text of symbols if and only if no pair is parted. -/
theorem isTagIdText_take (lawful : isTagIdText host text = true) (limit : Nat) :
    isTagIdText host (text.take limit) = true ↔ ¬ PartsPair (text.take limit) (text.drop limit) := by
  constructor
  · rintro isText ⟨⟨unit, last, high⟩, _⟩
    have member := last_high last high
    exact surrogate_not_point (by rw [high]; rfl) (isTagIdText_iff.1 isText _ member)
  · intro clean
    have whole := isTagIdText_append host clean
    rw [List.take_append_drop, lawful] at whole
    exact (Bool.and_eq_true _ _ ▸ whole.symm : _ ∧ _).1

theorem ascii_point {unit : UInt16} (small : unit < 128) (alphanumeric : isAlphanumeric unit = true) :
    IsTagIdPoint host [unit] := Or.inl (by rw [host.ascii_letter unit small, alphanumeric])

/-- Letters and digits of the basic alphabet, and dashes. -/
theorem isTagIdText_ascii (plain : ∀ unit ∈ text, unit < 128 ∧ (isAlphanumeric unit = true ∨ unit = 45)) :
    isTagIdText host text = true := by
  induction text with
  | nil => rfl
  | cons unit text ih =>
    obtain ⟨small, symbol⟩ := plain unit List.mem_cons_self
    have clean : ¬ PartsPair [unit] text := by
      rintro ⟨⟨last, isLast, high⟩, _⟩
      obtain rfl : unit = last := by simpa using isLast
      simp only [isHighSurrogate, Bool.and_eq_true, decide_eq_true_eq, UInt16.le_iff_toNat_le,
        UInt16.lt_iff_toNat_lt, UInt16.reduceToNat] at high small
      omega
    have front : isTagIdText host [unit] = true := by
      rw [isTagIdText_iff]
      intro point member
      obtain rfl : point = [unit] := by simpa [characters] using member
      rcases symbol with alphanumeric | rfl
      · exact ascii_point small alphanumeric
      · exact Or.inr rfl
    have rest := ih fun other member => plain other (List.mem_cons_of_mem _ member)
    change isTagIdText host ([unit] ++ text) = true
    rw [isTagIdText_append host clean, front, rest]
    rfl

end Texts

section Slugs

theorem isTagIdText_slug (host : Host) (name : JsString) : isTagIdText host (slug host name) = true := by
  rw [isTagIdText_iff]
  -- The symbols of the slug are among those of the name in which only letters and numbers were kept.
  have kept : ∀ point ∈ ((replaceRuns (fun point => !host.isLetterOrNumber point) [45] false
      (characters (host.lower (normalizeMessageTagName host name)))).dropWhile (· = [45])).rdropWhile (· = [45]),
      IsTagIdPoint host point ∧ Whole point := by
    intro point member
    have inRuns := (List.dropWhile_suffix _).subset ((List.rdropWhile_prefix _ _).subset member)
    rcases mem_replaceRuns inRuns with rfl | ⟨inName, letter⟩
    · exact ⟨Or.inr rfl, .unit 45 (by decide) (by decide)⟩
    · have isPoint : IsTagIdPoint host point := Or.inl (by simpa using letter)
      exact ⟨isPoint, whole_of_point inName isPoint⟩
  simp only [slug]
  rw [characters_whole fun point member => (kept point member).2]
  exact fun point member => (kept point member).1

/-- The cut at the limit parts no pair. -/
def SlugCut (host : Host) (name : JsString) : Prop :=
  ¬ PartsPair ((slug host name).take nameLimit) ((slug host name).drop nameLimit)

theorem messageTagId_ne_nil : messageTagId host name ≠ [] := by
  simp only [messageTagId]
  split
  · decide
  · assumption

theorem length_messageTagId (host : Host) (name : JsString) : (messageTagId host name).length ≤ nameLimit := by
  simp only [messageTagId]
  split
  · decide
  · exact List.length_take_le _ _

theorem isTagIdText_messageTagId : isTagIdText host (messageTagId host name) = true ↔ SlugCut host name := by
  have cut := isTagIdText_take (isTagIdText_slug host name) nameLimit
  simp only [messageTagId]
  split
  · rename_i empty
    constructor
    · rintro - ⟨⟨unit, last, _⟩, _⟩
      rw [empty] at last
      cases last
    · intro _
      exact isTagIdText_ascii (by decide)
  · exact cut

end Slugs

section Suffixes

theorem isDigit_ascii {unit : UInt16} (isDigit : (digit? unit).isSome = true) :
    unit < 128 ∧ isAlphanumeric unit = true := by
  unfold digit? at isDigit
  split at isDigit
  · rename_i range
    simp only [UInt16.le_iff_toNat_le, UInt16.reduceToNat] at range
    constructor
    · simp only [UInt16.lt_iff_toNat_lt, UInt16.reduceToNat]
      omega
    · simp only [isAlphanumeric, isLetter, Bool.or_eq_true, Bool.and_eq_true, decide_eq_true_eq,
        UInt16.le_iff_toNat_le, UInt16.reduceToNat]
      omega
  · cases isDigit

theorem isTagIdText_digits {digits : JsString} (isDigits : ∀ unit ∈ digits, (digit? unit).isSome = true) :
    isTagIdText host digits = true :=
  isTagIdText_ascii fun unit member => (isDigit_ascii (isDigits unit member)).imp id Or.inl

theorem isTagIdText_suffixed : isTagIdText host (suffixed candidate suffix) = isTagIdText host candidate := by
  have joined : ¬ PartsPair candidate (45 :: JsDate.decimal suffix) := by
    rintro ⟨_, low, isFirst, isLow⟩
    obtain rfl : 45 = low := by simpa using isFirst
    revert isLow
    decide
  have dash : ¬ PartsPair [45] (JsDate.decimal suffix) := by
    rintro ⟨⟨high, isLast, isHigh⟩, _⟩
    obtain rfl : 45 = high := by simpa using isLast
    revert isHigh
    decide
  have digits : isTagIdText host (JsDate.decimal suffix) = true :=
    isTagIdText_digits (JsDate.isDigit_digits _ _)
  have single : isTagIdText host [45] = true := by
    rw [isTagIdText_iff]
    intro point member
    exact Or.inr (by simpa [characters] using member)
  unfold suffixed
  rw [isTagIdText_append host joined]
  change (_ && isTagIdText host ([45] ++ JsDate.decimal suffix)) = _
  rw [isTagIdText_append host dash, single, digits, Bool.and_true, Bool.and_true]

theorem length_suffixed : (suffixed candidate suffix).length = candidate.length + Nat.log 10 suffix + 2 := by
  simp only [suffixed, List.length_append, List.length_cons, JsDate.length_decimal]
  omega

theorem suffixed_injective {other : Nat} (same : suffixed candidate suffix = suffixed candidate other) : suffix = other := by
  have decimals : JsDate.decimal suffix = JsDate.decimal other := by simpa [suffixed] using same
  have numbers := congrArg JsDate.number decimals
  simpa [JsDate.number_decimal] using numbers

def suffixes (candidate : JsString) : List JsString := (List.range catalogLimit).map fun index => suffixed candidate (index + 2)

theorem nodup_suffixes : (suffixes candidate).Nodup := by
  refine List.Nodup.map ?_ List.nodup_range
  intro first second same
  have := suffixed_injective same
  omega

/-- Among fewer identifiers than there are suffixes one of these is free. -/
theorem suffix_free (candidate : JsString) (few : taken.length < catalogLimit) : ∃ index, index < catalogLimit ∧ suffixed candidate (index + 2) ∉ taken := by
  by_contra none
  push Not at none
  have allTaken : suffixes candidate ⊆ taken := by
    intro text member
    obtain ⟨index, inRange, rfl⟩ := List.mem_map.1 member
    exact none index (List.mem_range.1 inRange)
  have count := (nodup_suffixes.subperm allTaken).length_le
  simp only [suffixes, List.length_map, List.length_range] at count
  omega

/-- The candidate itself where it is free, and else the first of its suffixes that is. -/
theorem uniqueTagId_spec (candidate : JsString) (few : taken.length < catalogLimit) :
    candidate ∉ taken ∧ uniqueTagId candidate taken = candidate ∨
    candidate ∈ taken ∧ ∃ index < catalogLimit, uniqueTagId candidate taken = suffixed candidate (index + 2) ∧
      suffixed candidate (index + 2) ∉ taken ∧ ∀ earlier < index, suffixed candidate (earlier + 2) ∈ taken := by
  unfold uniqueTagId
  by_cases free : candidate ∉ taken
  · exact Or.inl ⟨free, if_pos free⟩
  · rw [if_neg free]
    refine Or.inr ⟨not_not.1 free, ?_⟩
    obtain ⟨witness, witnessSmall, witnessFree⟩ := suffix_free candidate few
    cases found : ((List.range catalogLimit).map fun index => suffixed candidate (index + 2)).find? (· ∉ taken) with
    | none =>
      have isTaken := List.find?_eq_none.1 found _ (List.mem_map_of_mem (List.mem_range.2 witnessSmall))
      simp [witnessFree] at isTaken
    | some next =>
      obtain ⟨isFree, front, back, split, before⟩ := List.find?_eq_some_iff_append.1 found
      have bound : front.length < catalogLimit := by
        have total := congrArg List.length split
        simp only [List.length_map, List.length_range, List.length_append, List.length_cons] at total
        omega
      have at_index : ∀ index < catalogLimit,
          (front ++ next :: back)[index]? = some (suffixed candidate (index + 2)) := by
        intro index small
        rw [← split]
        simp [small]
      have isNext : next = suffixed candidate (front.length + 2) := by
        simpa using at_index front.length bound
      refine ⟨front.length, bound, isNext, by simpa [isNext] using isFree, ?_⟩
      intro earlier isEarlier
      have inFront := at_index earlier (by omega)
      rw [List.getElem?_append_left isEarlier] at inFront
      simpa using before _ (List.mem_of_getElem? inFront)

theorem uniqueTagId_fresh (few : taken.length < catalogLimit) : uniqueTagId candidate taken ∉ taken := by
  rcases uniqueTagId_spec candidate few with ⟨free, same⟩ | ⟨_, index, _, same, free, _⟩
  · rwa [same]
  · rwa [same]

/-- What of an identifier is left for a suffix, where it needs one. -/
def HasRoom (candidate : JsString) (taken : List JsString) : Prop :=
  candidate ∉ taken ∨ candidate.length ≤ 61 ∨
    candidate.length = 62 ∧ ∃ index < 8, suffixed candidate (index + 2) ∉ taken

theorem log_suffix {index : Nat} (small : index < catalogLimit) : Nat.log 10 (index + 2) = if index < 8 then 0 else 1 := by
  unfold catalogLimit at small
  split
  · exact Nat.log_of_lt (by omega)
  · rw [Nat.log_eq_iff (by omega)]
    omega

theorem length_uniqueTagId (few : taken.length < catalogLimit) (short : candidate.length ≤ nameLimit) :
    (uniqueTagId candidate taken).length ≤ nameLimit ↔ HasRoom candidate taken := by
  unfold nameLimit at *
  rcases uniqueTagId_spec candidate few with ⟨free, same⟩ | ⟨isTaken, index, small, same, free, before⟩
  · rw [same]
    exact ⟨fun _ => Or.inl free, fun _ => short⟩
  · rw [same, length_suffixed, log_suffix small]
    constructor
    · intro fits
      by_cases oneDigit : index < 8
      · rw [if_pos oneDigit] at fits
        rcases Nat.lt_or_ge candidate.length 62 with less | more
        · exact Or.inr (Or.inl (by omega))
        · exact Or.inr (Or.inr ⟨by omega, index, oneDigit, free⟩)
      · rw [if_neg oneDigit] at fits
        exact Or.inr (Or.inl (by omega))
    · rintro (isFree | less | ⟨length, other, oneDigit, otherFree⟩)
      · exact absurd isTaken isFree
      · split <;> omega
      · have notLater : index ≤ other := by
          by_contra later
          exact otherFree (before other (by omega))
        rw [if_pos (by omega)]
        omega

theorem messageTagIdSchema_unique (few : taken.length < catalogLimit) :
    messageTagIdSchema host (uniqueTagId (messageTagId host name) taken) = true ↔
      SlugCut host name ∧ HasRoom (messageTagId host name) taken := by
  have nonempty : uniqueTagId (messageTagId host name) taken ≠ [] ∧
      isTagIdText host (uniqueTagId (messageTagId host name) taken) = isTagIdText host (messageTagId host name) := by
    rcases uniqueTagId_spec (messageTagId host name) few with ⟨_, same⟩ | ⟨_, index, _, same, _⟩
    · rw [same]
      exact ⟨messageTagId_ne_nil, rfl⟩
    · rw [same, isTagIdText_suffixed]
      exact ⟨by simp [suffixed], rfl⟩
  have length := length_uniqueTagId few (length_messageTagId host name)
  unfold messageTagIdSchema
  rw [Bool.and_eq_true, Bool.and_eq_true, nonempty.2, isTagIdText_messageTagId, decide_eq_true_eq, decide_eq_true_eq,
    length]
  tauto

end Suffixes

end MessageTags
