import MaterialEmail.Library.JsString
import Mathlib.Data.List.Chain

/-! Texts whose white space has been made single blanks. -/
namespace JsString

variable {text : JsString}

/-- White space is single blanks. -/
def Tidy (text : JsString) : Prop :=
  (∀ unit ∈ text, isWhiteSpace unit = true → unit = 32) ∧
    text.IsChain fun front back => isWhiteSpace front = true → isWhiteSpace back = false

theorem Tidy.tail {unit : UInt16} (tidy : Tidy (unit :: text)) : Tidy text :=
  ⟨fun other member => tidy.1 other (List.mem_cons_of_mem _ member), tidy.2.tail⟩

theorem Tidy.inside {part : JsString} (tidy : Tidy text) (inside : part <:+: text) : Tidy part := by
  refine ⟨fun unit member => tidy.1 unit (inside.subset member), ?_⟩
  obtain ⟨before, after, rfl⟩ := inside
  exact tidy.2.left_of_append.right_of_append

theorem replaceRuns_of_tidy {inRun : Bool} (tidy : Tidy text)
    (opens : inRun = true → ∀ unit ∈ text.head?, isWhiteSpace unit = false) :
    replaceRuns isWhiteSpace 32 inRun text = text := by
  induction text generalizing inRun with
  | nil => rfl
  | cons unit rest ih =>
    have next (white : isWhiteSpace unit = true) : ∀ other ∈ rest.head?, isWhiteSpace other = false :=
      fun other isNext => (List.isChain_cons.1 tidy.2).1 other isNext white
    cases white : isWhiteSpace unit with
    | true =>
      have outside : ¬inRun = true := fun inside => by simp [opens inside unit rfl] at white
      rw [replaceRuns, if_pos white, if_neg outside, ih tidy.tail fun _ => next white,
        tidy.1 unit List.mem_cons_self white]
    | false => rw [replaceRuns, if_neg (by simp [white]), ih tidy.tail (by simp)]

theorem head_replaceRuns {unit : UInt16} (first : unit ∈ (replaceRuns isWhiteSpace 32 true text).head?) :
    isWhiteSpace unit = false := by
  induction text with
  | nil => cases first
  | cons other rest ih =>
    cases white : isWhiteSpace other with
    | true => exact ih (by simpa [replaceRuns, white] using first)
    | false =>
      rw [replaceRuns, if_neg (by simp [white])] at first
      cases first
      exact white

theorem tidy_replaceRuns (inRun : Bool) : Tidy (replaceRuns isWhiteSpace 32 inRun text) := by
  refine ⟨fun unit member white => ?_, ?_⟩
  · rcases mem_replaceRuns member with isMark | ⟨-, outside⟩
    · exact isMark
    · simp [white] at outside
  · induction text generalizing inRun with
    | nil => exact List.isChain_nil
    | cons unit rest ih =>
      unfold replaceRuns
      split
      · split
        · exact ih true
        · exact List.isChain_cons.2 ⟨fun next isNext _ => head_replaceRuns isNext, ih true⟩
      · rename_i outside
        exact List.isChain_cons.2 ⟨fun next _ white => absurd white outside, ih false⟩

theorem trim_within : trim text <:+: text :=
  (List.rdropWhile_prefix _ _).isInfix.trans (List.dropWhile_suffix _).isInfix

theorem getLast?_replaceRuns {inRun : Bool} {last : UInt16} (isLast : text.getLast? = some last)
    (plain : isWhiteSpace last = false) : (replaceRuns isWhiteSpace 32 inRun text).getLast? = some last := by
  induction text generalizing inRun with
  | nil => cases isLast
  | cons unit rest ih =>
    rw [List.getLast?_cons] at isLast
    cases end' : rest.getLast? with
    | none =>
      obtain rfl := List.getLast?_eq_none_iff.1 end'
      obtain rfl : unit = last := by simpa using isLast
      simp [replaceRuns, plain]
    | some other =>
      obtain rfl : other = last := by simpa [end'] using isLast
      unfold replaceRuns
      split
      · split
        · exact ih end'
        · rw [List.getLast?_cons, ih end']
          rfl
      · rw [List.getLast?_cons, ih end']
        rfl

theorem trimmed_replaceRuns {text : JsString} (trimmed : text.Trimmed) :
    JsString.Trimmed (replaceRuns isWhiteSpace 32 false text) := by
  cases last : text.getLast? with
  | none =>
    obtain rfl := List.getLast?_eq_none_iff.1 last
    exact trimmed
  | some unit =>
    have plain : isWhiteSpace unit = false := trimmed.2 unit last
    refine ⟨?_, fun other isOther => ?_⟩
    · cases text with
      | nil => exact trimmed.1
      | cons first rest =>
        have opens : isWhiteSpace first = false := trimmed.1 first rfl
        rw [replaceRuns, if_neg (by simp [opens])]
        exact trimmed.1
    · rw [getLast?_replaceRuns last plain] at isOther
      cases isOther
      exact plain

end JsString
