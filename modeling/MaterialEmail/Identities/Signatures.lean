import MaterialEmail.Identities.Model
import MaterialEmail.Library.Occurrence

/-! The signature of an identity in the text of a draft: a chosen identity's signature takes the place of the
one that was put there before. -/
namespace Identities

open JsString Occurrence

def signatureSeparator : JsString := ofString "-- "

def signatureBlock (signature : JsString) : JsString := [10] ++ signatureSeparator ++ [10] ++ signature

def stripSignature (body : JsString) (previousSignature : Option JsString) : JsString :=
  match previousSignature with
  | some previousSignature =>
    let previous := previousSignature.trim
    if previous = [] then body
    else
      let block := signatureBlock previous
      match lastIndexOf block body with
      | some index => body.take index ++ body.drop (index + block.length)
      | none => body
  | none =>
    match lastIndexOf ([10] ++ signatureSeparator ++ [10]) body with
    | some index => body.take index
    | none => body

inductive QuotePosition where
  | none
  | index (place : Int)
  | line (text : JsString)

def quoteIndexIn (stripped : JsString) : QuotePosition → Option Int
  | .none => none
  | .index place => if stripped.length < place then none else some place
  | .line text => (indexOf text stripped).map Int.ofNat

/-- What `slice` makes of a place: one below zero counts from the end. -/
def slicePoint (text : JsString) (place : Int) : Nat := if place < 0 then (text.length + place).toNat else place.toNat

@[simp] theorem slicePoint_natCast (text : JsString) (place : Nat) : slicePoint text place = place := by
  simp [slicePoint]

/-- `replace(/\s+$/u, "")`. -/
def trimEnd (text : JsString) : JsString := text.rdropWhile isWhiteSpace

structure SignatureApplication where
  text : JsString
  applied : Bool

def applySignature (body : JsString) (identity : Option MailIdentity) (quotedFrom : QuotePosition)
    (previousSignature : Option JsString) : SignatureApplication :=
  let stripped := stripSignature body previousSignature
  let signature := (identity.map (·.signature.trim)).getD []
  if signature = [] then ⟨stripped, false⟩
  else
    let block := signatureBlock signature
    match quoteIndexIn stripped quotedFrom with
    | some quoteIndex =>
      if identity.map (·.signaturePlacement) = some .belowQuote then ⟨stripped ++ block, true⟩
      else
        let place := slicePoint stripped quoteIndex
        ⟨trimEnd (stripped.take place) ++ block ++ [10, 10] ++ stripped.drop place, true⟩
    | none => ⟨stripped ++ block, true⟩

section Blank

variable {text front back : JsString}

theorem blank_trimEnd (text : JsString) :
    ∃ blank : JsString, text = trimEnd text ++ blank ∧ ∀ unit ∈ blank, isWhiteSpace unit :=
  ⟨text.rtakeWhile isWhiteSpace, List.rdropWhile_append_rtakeWhile.symm, fun _ => List.mem_rtakeWhile_imp⟩

theorem trimEnd_append_blank (blank : ∀ unit ∈ back, isWhiteSpace unit) : trimEnd (front ++ back) = trimEnd front := by
  induction back using List.reverseRecOn with
  | nil => rw [List.append_nil]
  | append_singleton back unit ih =>
    rw [← List.append_assoc, trimEnd, List.rdropWhile_concat_pos _ _ _ (blank unit (by simp))]
    exact ih fun other member => blank other (List.mem_append_left _ member)

theorem trimEnd_eq_self (stops : ∀ unit ∈ text.getLast?, isWhiteSpace unit = false) : trimEnd text = text := by
  rw [trimEnd, List.rdropWhile_eq_self_iff]
  intro nonempty
  simp [stops _ (List.getLast?_eq_some_getLast nonempty)]

theorem getLast_trimEnd : ∀ unit ∈ (trimEnd text).getLast?, isWhiteSpace unit = false := by
  intro unit last
  obtain ⟨nonempty, rfl⟩ := List.mem_getLast?_eq_getLast last
  simpa [trimEnd] using List.rdropWhile_last_not isWhiteSpace text nonempty

theorem trimEnd_append_trimEnd : trimEnd (trimEnd front ++ back) = trimEnd front ++ trimEnd back := by
  obtain ⟨blank, whole, isBlank⟩ := blank_trimEnd back
  have step : trimEnd (trimEnd front ++ back) = trimEnd (trimEnd front ++ trimEnd back) := by
    conv_lhs => rw [whole, ← List.append_assoc]
    exact trimEnd_append_blank isBlank
  rw [step]
  apply trimEnd_eq_self
  intro unit last
  rw [List.getLast?_append] at last
  cases ends : (trimEnd back).getLast? with
  | none =>
    rw [ends, Option.none_or] at last
    exact getLast_trimEnd unit last
  | some other =>
    rw [ends, Option.some_or] at last
    exact getLast_trimEnd unit (ends.trans last)

end Blank

section Signing

variable {body front back line : JsString} {identity first second : MailIdentity} {marker : Option JsString} {i : Nat}

def QuotePosition.ofMarker : Option JsString → QuotePosition
  | some text => .line text
  | .none => .none

/-- A body that nothing was put into before, signed. -/
def signed (body : JsString) (identity : MailIdentity) (marker : Option JsString) : JsString :=
  (applySignature body (some identity) (.ofMarker marker) (some [])).text

/-- A body that was signed by the first identity and then by the second. -/
def switched (body : JsString) (first second : MailIdentity) (marker : Option JsString) : JsString :=
  (applySignature (signed body first marker) (some second) (.ofMarker marker) (some first.signature)).text

theorem stripSignature_nothing : stripSignature body (some []) = body := rfl

theorem switched_eq :
    switched body first second marker = signed (stripSignature (signed body first marker) (some first.signature)) second marker := rfl

theorem signed_blank (blank : identity.signature.trim = []) : signed body identity marker = body := by
  simp [signed, applySignature, stripSignature_nothing, blank]

theorem signed_below (signs : identity.signature.trim ≠ []) (below : identity.signaturePlacement = .belowQuote) :
    signed body identity marker = body ++ signatureBlock identity.signature.trim := by
  simp only [signed, applySignature, stripSignature_nothing, Option.map_some, Option.getD_some, signs, below, if_false, if_true]
  split <;> rfl

theorem signed_none (signs : identity.signature.trim ≠ []) :
    signed body identity none = body ++ signatureBlock identity.signature.trim := by
  simp [signed, applySignature, stripSignature_nothing, signs, QuotePosition.ofMarker, quoteIndexIn]

theorem signed_missing (signs : identity.signature.trim ≠ []) (missing : indexOf line body = none) :
    signed body identity (some line) = body ++ signatureBlock identity.signature.trim := by
  simp [signed, applySignature, stripSignature_nothing, signs, QuotePosition.ofMarker, quoteIndexIn, missing]

theorem signed_above (signs : identity.signature.trim ≠ []) (above : identity.signaturePlacement ≠ .belowQuote)
    (found : indexOf line body = some i) : signed body identity (some line) =
      trimEnd (body.take i) ++ signatureBlock identity.signature.trim ++ [10, 10] ++ body.drop i := by
  simp [signed, applySignature, stripSignature_nothing, signs, above, QuotePosition.ofMarker, quoteIndexIn, found]

end Signing

section Stripping

variable {signature front back line : JsString} {j : Nat}

theorem stripSignature_at (signs : signature.trim ≠ []) {body : JsString} {index : Nat}
    (found : lastIndexOf (signatureBlock signature.trim) body = some index) : stripSignature body (some signature) =
      body.take index ++ body.drop (index + (signatureBlock signature.trim).length) := by
  simp [stripSignature, signs, found]

theorem stripSignature_last (signs : signature.trim ≠ [])
    (last : ∀ j, 0 < j → ¬ OccursAt (signatureBlock signature.trim) (signatureBlock signature.trim ++ back) j) :
    stripSignature (front ++ signatureBlock signature.trim ++ back) (some signature) = front ++ back := by
  have found : lastIndexOf (signatureBlock signature.trim) (front ++ signatureBlock signature.trim ++ back) = some front.length := by
    refine lastIndexOf_eq_some.2 ⟨occursAt_append _ _ _, by simp, fun j after _ occurs => ?_⟩
    obtain ⟨distance, rfl⟩ := Nat.exists_eq_add_of_lt after
    rw [List.append_assoc, Nat.add_assoc, occursAt_append_right] at occurs
    exact last _ (Nat.succ_pos distance) occurs
  rw [stripSignature_at signs found, List.append_assoc, List.take_left, ← List.append_assoc, ← List.length_append, List.drop_left]

theorem signatureBlock_eq : signatureBlock signature = 10 :: 45 :: 45 :: 32 :: 10 :: signature := rfl

/-- Where a block follows that begins later, that one is taken out and the first stays. -/
theorem stripSignature_later (signs : signature.trim ≠ []) (later : 0 < j)
    (occurs : OccursAt (signatureBlock signature.trim) (signatureBlock signature.trim ++ back) j) :
    ∃ left, stripSignature (front ++ signatureBlock signature.trim ++ back) (some signature) = front ++ left ∧
      left.length = back.length ∧ [10, 45] <+: left := by
  generalize named : signatureBlock signature.trim = block at occurs
  have nonempty : block ≠ [] := by simp [← named, signatureBlock_eq]
  have inText : OccursAt block (front ++ block ++ back) (front.length + j) := by
    rw [List.append_assoc]
    exact occursAt_append_right.2 occurs
  obtain ⟨index, found, after⟩ := lastIndexOf_of_occursAt inText (Nat.le_of_lt (inText.lt_length nonempty))
  obtain ⟨place, rfl⟩ := Nat.exists_eq_add_of_le (Nat.le_trans (Nat.le_add_right _ _) after)
  have isThere := (lastIndexOf_eq_some.1 found).1
  rw [List.append_assoc, occursAt_append_right] at isThere
  have fits := isThere.length_le (Nat.le_of_lt (isThere.lt_length nonempty))
  have notNext : place ≠ 1 := by
    rintro rfl
    obtain ⟨rest, whole⟩ := isThere
    simp [← named, signatureBlock_eq] at whole
  refine ⟨(block ++ back).take place ++ (block ++ back).drop (place + block.length), ?_, ?_, ?_⟩
  · rw [← named] at found
    rw [← named, stripSignature_at signs found, List.append_assoc, List.take_length_add_append, Nat.add_assoc,
      List.drop_length_add_append, List.append_assoc]
  · simp only [List.length_append, List.length_take, List.length_drop] at fits ⊢
    omega
  · obtain ⟨more, rfl⟩ : ∃ more, place = 2 + more := Nat.exists_eq_add_of_le (by omega)
    simp [← named, signatureBlock_eq, Nat.add_comm 2]

end Stripping

section Switching

variable {body front rest line : JsString} {first second identity : MailIdentity} {i : Nat}

/-- What stands in a signed body from the quote marker on. -/
def fromQuote (body : JsString) (identity : MailIdentity) (line : JsString) : JsString :=
  let quoted := (indexOf line body).elim [] body.drop
  if identity.signature.trim ≠ [] ∧ identity.signaturePlacement = .belowQuote then
    quoted ++ signatureBlock identity.signature.trim
  else quoted

/-- Two texts that are one up to the white space before `rest`. -/
def SameUpTo (rest text other : JsString) : Prop :=
  ∃ front front', text = front ++ rest ∧ other = front' ++ rest ∧ trimEnd front = trimEnd front'

/-- To switch from the first identity to the second leaves what the second alone would have made of the body. -/
def Switches (body : JsString) (first second : MailIdentity) : Option JsString → Prop
  | some line =>
    SameUpTo (fromQuote body second line) (switched body first second (some line)) (signed body second (some line))
  | none => switched body first second none = signed body second none

/-- Nothing like the first identity's block begins after the place where that block was put. -/
def Removable (body : JsString) (first : MailIdentity) (marker : Option JsString) : Prop :=
  first.signature.trim = [] ∨ first.signaturePlacement = .belowQuote ∨ ∀ line ∈ marker, ∀ i ∈ indexOf line body, ∀ j, 0 < j →
    ¬ OccursAt (signatureBlock first.signature.trim) (signatureBlock first.signature.trim ++ ([10, 10] ++ body.drop i)) j

theorem not_occursAt_self {block : JsString} {j : Nat} (nonempty : block ≠ []) (later : 0 < j) : ¬ OccursAt block (block ++ []) j := by
  rw [List.append_nil]
  intro occurs
  have fits := occurs.length_le (Nat.le_of_lt (occurs.lt_length nonempty))
  omega

theorem strip_end (signs : identity.signature.trim ≠ []) :
    stripSignature (body ++ signatureBlock identity.signature.trim) (some identity.signature) = body := by
  have stripped : stripSignature (body ++ signatureBlock identity.signature.trim ++ []) (some identity.signature) = body ++ [] :=
    stripSignature_last signs fun j => not_occursAt_self (by simp [signatureBlock_eq])
  simpa using stripped

theorem stripSignature_blank (blank : identity.signature.trim = []) : stripSignature body (some identity.signature) = body := by
  simp [stripSignature, blank]

/-- An identity that does not sign above the quote adds to the end, if anything. -/
theorem signed_after (after : second.signature.trim = [] ∨ second.signaturePlacement = .belowQuote) :
    ∃ tail, (∀ text marker, signed text second marker = text ++ tail) ∧
      ∀ body line, fromQuote body second line = (indexOf line body).elim [] body.drop ++ tail := by
  by_cases blank : second.signature.trim = []
  · refine ⟨[], fun text marker => ?_, fun body line => ?_⟩
    · rw [signed_blank blank, List.append_nil]
    · simp [fromQuote, blank]
  · have below := after.resolve_left blank
    refine ⟨signatureBlock second.signature.trim, fun text marker => signed_below blank below, fun body line => ?_⟩
    simp [fromQuote, blank, below]

theorem fromQuote_above (above : second.signaturePlacement ≠ .belowQuote) (found : indexOf line body = some i) :
    fromQuote body second line = body.drop i := by
  simp [fromQuote, above, found]

theorem sameUpTo_refl {text : JsString} (ends : ∃ front, text = front ++ rest) : SameUpTo rest text text := by
  obtain ⟨front, whole⟩ := ends
  exact ⟨front, front, whole, whole, rfl⟩

theorem signed_ends (found : indexOf line body = some i) :
    ∃ front, signed body identity (some line) = front ++ fromQuote body identity line := by
  by_cases after : identity.signature.trim = [] ∨ identity.signaturePlacement = .belowQuote
  · obtain ⟨tail, adds, quoted⟩ := signed_after after
    refine ⟨body.take i, ?_⟩
    rw [adds, quoted, found, Option.elim_some, ← List.append_assoc, List.take_append_drop]
  · obtain ⟨signs, above⟩ := not_or.1 after
    exact ⟨_, by rw [signed_above signs above found, fromQuote_above above found]⟩

/-- A body that is as it was before the first identity signed it. -/
theorem switches_of_stripped {marker : Option JsString} (known : ∀ line ∈ marker, ∃ i, indexOf line body = some i)
    (stripped : stripSignature (signed body first marker) (some first.signature) = body) :
    Switches body first second marker := by
  have same : switched body first second marker = signed body second marker := by rw [switched_eq, stripped]
  cases marker with
  | none => exact same
  | some line =>
    obtain ⟨i, found⟩ := known line rfl
    rw [Switches, same]
    exact sameUpTo_refl (signed_ends found)

section Above

theorem indexOf_nil (found : indexOf [] body = some i) : i = 0 := by
  by_contra later
  exact (indexOf_eq_some.1 found).2.2 0 (Nat.pos_of_ne_zero later) List.nil_prefix

/-- The body up to the quote marker, its white space off, does not hold the marker. -/
theorem not_occursAt_front {j : Nat} (known : indexOf line body = some i) (before : j < (trimEnd (body.take i)).length) :
    ¬ OccursAt line (trimEnd (body.take i)) j := by
  intro occurs
  have isPrefix : trimEnd (body.take i) <+: body := (List.rdropWhile_prefix _ _).trans (List.take_prefix _ _)
  have short : (trimEnd (body.take i)).length ≤ i := by
    have le := (List.rdropWhile_prefix isWhiteSpace (body.take i)).length_le
    rw [List.length_take] at le
    exact Nat.le_trans le (Nat.min_le_left _ _)
  exact (indexOf_eq_some.1 known).2.2 j (by omega) (occurs.mono isPrefix)

/-- The quote marker is not found before the rest that took the place of what the front was parted from. -/
theorem front_le {k : Nat} (known : indexOf line body = some i) (starts : ∀ unit ∈ rest.head?, unit ∉ line)
    (occurs : OccursAt line (trimEnd (body.take i) ++ rest) k) : (trimEnd (body.take i)).length ≤ k := by
  by_contra before
  by_cases empty : line = []
  · subst empty
    obtain rfl := indexOf_nil known
    simp [trimEnd] at before
  · rcases occurs.either empty starts with here | ⟨later, rfl, -⟩
    · exact not_occursAt_front known (Nat.lt_of_not_le before) here
    · omega

theorem getLast_block (text : JsString) (signs : identity.signature.trim ≠ []) :
    ∃ unit, (text ++ signatureBlock identity.signature.trim).getLast? = some unit ∧ isWhiteSpace unit = false := by
  have last := List.getLast?_eq_some_getLast signs
  refine ⟨_, ?_, (trimmed_trim _).2 _ last⟩
  rw [signatureBlock, ← List.append_assoc, List.getLast?_append, last, Option.some_or]

theorem trimEnd_block {text : JsString} (signs : identity.signature.trim ≠ []) :
    trimEnd (text ++ signatureBlock identity.signature.trim) = text ++ signatureBlock identity.signature.trim := by
  obtain ⟨unit, last, stops⟩ := getLast_block text signs
  exact trimEnd_eq_self fun other isLast => Option.some.inj (last.symm.trans isLast) ▸ stops

theorem blank_lines : ∀ unit ∈ ([10, 10] : JsString), isWhiteSpace unit := by decide

/-- The first identity's block taken out where it was put, the second finds the quote where it was. -/
theorem sameUpTo_of_removed (known : indexOf line body = some i) (oneLine : 10 ∉ line) :
    SameUpTo (fromQuote body second line)
      (signed (trimEnd (body.take i) ++ ([10, 10] ++ body.drop i)) second (some line)) (signed body second (some line)) := by
  by_cases after : second.signature.trim = [] ∨ second.signaturePlacement = .belowQuote
  · obtain ⟨tail, adds, quoted⟩ := signed_after after
    rw [adds, adds, quoted, known, Option.elim_some]
    refine ⟨trimEnd (body.take i) ++ [10, 10], body.take i, by simp, ?_, ?_⟩
    · rw [← List.append_assoc, List.take_append_drop]
    · rw [trimEnd_append_blank blank_lines]
      exact List.rdropWhile_idempotent _ _
  · obtain ⟨signs, above⟩ := not_or.1 after
    rw [fromQuote_above above known, signed_above signs above known]
    by_cases empty : line = []
    · subst empty
      obtain rfl := indexOf_nil known
      have atStart : indexOf [] ([10, 10] ++ body) = some 0 :=
        indexOf_eq_some.2 ⟨List.nil_prefix, Nat.zero_le _, fun j small => absurd small (Nat.not_lt_zero j)⟩
      have start : trimEnd (body.take 0) ++ ([10, 10] ++ body.drop 0) = [10, 10] ++ body := rfl
      rw [start, signed_above signs above atStart]
      refine ⟨signatureBlock second.signature.trim ++ [10, 10] ++ [10, 10], signatureBlock second.signature.trim ++ [10, 10], ?_, rfl, ?_⟩
      · simp [trimEnd]
      · exact trimEnd_append_blank blank_lines
    · have isThere : OccursAt line (body.drop i) 0 := (indexOf_eq_some.1 known).1
      have place : indexOf line (trimEnd (body.take i) ++ ([10, 10] ++ body.drop i)) =
          some ((trimEnd (body.take i)).length + ([10, 10] : JsString).length) := by
        refine indexOf_eq_some.2 ⟨?_, by simp, fun j before occurs => ?_⟩
        · exact occursAt_append_right.2 (occursAt_append_right (i := 0).2 isThere)
        · have isAfter := front_le known (by simpa using oneLine) occurs
          obtain ⟨k, rfl⟩ := Nat.exists_eq_add_of_le isAfter
          obtain ⟨tail, whole⟩ := occursAt_append_right.1 occurs
          cases line with
          | nil => exact empty rfl
          | cons unit line =>
            have newline : unit = 10 := by
              match k, before with
              | 0, _ => simpa using congrArg List.head? whole
              | 1, _ => simpa using congrArg List.head? whole
              | k + 2, before => simp at before
            exact oneLine (newline ▸ List.mem_cons_self)
      rw [signed_above signs above place, ← List.append_assoc, ← List.length_append, List.take_left, List.drop_left,
        trimEnd_append_blank blank_lines]
      have same : trimEnd (trimEnd (body.take i)) = trimEnd (body.take i) := List.rdropWhile_idempotent _ _
      rw [same]
      exact sameUpTo_refl ⟨_, rfl⟩

end Above

/-! What is left of a body from which another block was taken than the one that was put there. -/
section Left

variable {x y w quoted block left : JsString}

/-- The second block does not come to stand where it stands in a body signed once, with the marker in its place. -/
theorem not_shifted (whole : x ++ block ++ y = block ++ (w ++ quoted)) (blank : ∀ unit ∈ w, isWhiteSpace unit)
    (nonempty : x ≠ []) (marks : line <+: quoted) (absent : ∀ j, ¬ OccursAt line x j)
    (ends : ∃ unit, block.getLast? = some unit ∧ isWhiteSpace unit = false)
    (starts : ∀ unit ∈ block.head?, unit ∉ line) (follows : ∀ unit ∈ y.head?, unit ∉ line) : False := by
  have isText : line ≠ [] := by
    rintro rfl
    exact absent 0 List.nil_prefix
  obtain ⟨l, period, tail⟩ : ∃ l, x ++ block = block ++ l ∧ w ++ quoted = l ++ y := by
    rcases List.append_eq_append_iff.1 whole with ⟨l, longer, -⟩ | here
    · have lengths := congrArg List.length longer
      simp only [List.length_append] at lengths
      exact absurd (List.length_eq_zero_iff.1 (by omega : x.length = 0)) nonempty
    · exact here
  have sameLength : l.length = x.length := by
    have lengths := congrArg List.length period
    simp only [List.length_append] at lengths
    omega
  have beyond : w.length < x.length := by
    by_contra within
    have inBlank : l <+: w :=
      List.prefix_of_prefix_length_le ⟨y, tail.symm⟩ (List.prefix_append w quoted) (by omega)
    obtain ⟨unit, last, stops⟩ := ends
    have lastOf : l.getLast? = some unit := by
      have lasts := congrArg List.getLast? period
      have some : l ≠ [] := fun empty => nonempty (List.length_eq_zero_iff.1 (by rw [← sameLength, empty]; rfl))
      rw [List.getLast?_append, last, Option.some_or, List.getLast?_append_of_ne_nil _ some] at lasts
      exact lasts.symm
    have white := blank unit (inBlank.subset (List.mem_of_getLast? lastOf))
    simp [stops] at white
  have occurs : OccursAt line (x ++ block ++ y) (block.length + w.length) := by
    rw [whole]
    exact occursAt_append_right.2 (occursAt_append_right (i := 0).2 marks)
  rcases occurs.either isText follows with here | ⟨k, place, -⟩
  · obtain ⟨j, inX⟩ := here.of_period ⟨l, period.symm⟩ nonempty isText starts
    exact absent j inX
  · rw [List.length_append] at place
    omega

theorem not_unmoved {k : Nat} (whole : [10, 10] ++ left.drop k = w ++ quoted) (blank : ∀ unit ∈ w, isWhiteSpace unit)
    (lengths : left.length = quoted.length + 2) (starts : [10, 45] <+: left) (early : k ≤ 1) : False := by
  obtain ⟨more, rfl⟩ := starts
  have sameLength : more.length = quoted.length := by
    simp only [List.length_append, List.length_cons, List.length_nil] at lengths
    omega
  rw [List.drop_append_of_le_length (by simp; omega), ← List.append_assoc] at whole
  obtain ⟨isBlank, -⟩ := List.append_inj' whole sameLength
  have dash : (45 : UInt16) ∈ w := by
    rw [← isBlank]
    match k, early with
    | 0, _ => decide
    | 1, _ => decide
  exact absurd (blank 45 dash) (by decide)

theorem trimEnd_eq_iff {front known : JsString} (same : trimEnd known = trimEnd front) :
    ∃ blank, known = trimEnd front ++ blank ∧ ∀ unit ∈ blank, isWhiteSpace unit := by
  rw [← same]
  exact blank_trimEnd known

end Left

section Kept

variable {left : JsString} (known : indexOf line body = some i) (oneLine : 10 ∉ line)
  (lengths : left.length = (body.drop i).length + 2) (starts : [10, 45] <+: left)
include known lengths starts

theorem not_sameUpTo_after (after : second.signature.trim = [] ∨ second.signaturePlacement = .belowQuote) :
    ¬ SameUpTo (fromQuote body second line) (signed (trimEnd (body.take i) ++ left) second (some line))
      (signed body second (some line)) := by
  rintro ⟨front, front', switches, direct, same⟩
  obtain ⟨tail, adds, quoted⟩ := signed_after after
  rw [adds, quoted, known, Option.elim_some, ← List.append_assoc] at switches direct
  have isFront : body.take i = front' :=
    List.append_cancel_right ((List.take_append_drop i body).trans (List.append_cancel_right direct))
  subst isFront
  obtain ⟨blank, rfl, isBlank⟩ := trimEnd_eq_iff same
  have isLeft : left = blank ++ body.drop i := by
    have cancelled := List.append_cancel_right switches
    rw [List.append_assoc] at cancelled
    exact List.append_cancel_left cancelled
  obtain ⟨more, rfl⟩ := starts
  have sameLength : more.length = (body.drop i).length := by
    simp only [List.length_append, List.length_cons, List.length_nil] at lengths ⊢
    omega
  obtain ⟨rfl, -⟩ := List.append_inj' isLeft sameLength
  exact absurd (isBlank 45 (by decide)) (by decide)

include oneLine

theorem not_sameUpTo_above (signs : second.signature.trim ≠ []) (above : second.signaturePlacement ≠ .belowQuote) :
    ¬ SameUpTo (fromQuote body second line) (signed (trimEnd (body.take i) ++ left) second (some line))
      (signed body second (some line)) := by
  rintro ⟨front, front', switches, direct, same⟩
  rw [fromQuote_above above known] at switches direct
  rw [signed_above signs above known] at direct
  have isFront := List.append_cancel_right direct
  subst isFront
  rw [trimEnd_append_blank blank_lines, trimEnd_block signs] at same
  obtain ⟨blank, isFront, isBlank⟩ := blank_trimEnd front
  rw [isFront, same] at switches
  have ends := getLast_block [] signs
  rw [List.nil_append] at ends
  have first : ∀ unit ∈ (signatureBlock second.signature.trim).head?, unit ∉ line := by
    simpa [signatureBlock_eq] using oneLine
  have dashes : ∀ unit ∈ left.head?, unit ∉ line := by
    obtain ⟨more, rfl⟩ := starts
    simpa using oneLine
  have marks : line <+: body.drop i := (indexOf_eq_some.1 known).1
  cases found : indexOf line (trimEnd (body.take i) ++ left) with
  | none =>
    have absent : ∀ j ≤ left.length, ¬ OccursAt line left j := fun j within occurs =>
      indexOf_eq_none.1 found _ (by simpa using within) (occursAt_append_right.2 occurs)
    have isText : line ≠ [] := by
      rintro rfl
      exact absent 0 (Nat.zero_le _) List.nil_prefix
    rw [signed_missing signs found] at switches
    refine not_shifted (x := left) (y := []) ?_ isBlank ?_ marks ?_ ends first (by simp)
    · simpa using switches
    · obtain ⟨more, rfl⟩ := starts
      simp
    · exact fun j occurs => absent j (Nat.le_of_lt (occurs.lt_length isText)) occurs
  | some place =>
    obtain ⟨occurs, -, first'⟩ := indexOf_eq_some.1 found
    obtain ⟨k, rfl⟩ := Nat.exists_eq_add_of_le (front_le known dashes occurs)
    rw [signed_above signs above found, List.take_length_add_append, List.drop_length_add_append,
      trimEnd_append_trimEnd] at switches
    have whole : trimEnd (left.take k) ++ signatureBlock second.signature.trim ++ ([10, 10] ++ left.drop k) =
        signatureBlock second.signature.trim ++ (blank ++ body.drop i) := by
      simpa using switches
    by_cases empty : trimEnd (left.take k) = []
    · refine not_unmoved (k := k) ?_ isBlank lengths starts ?_
      · simpa [empty] using whole
      · by_contra later
        obtain ⟨more, rfl⟩ := starts
        obtain ⟨n, rfl⟩ : ∃ n, k = 2 + n := Nat.exists_eq_add_of_le (by omega)
        have white := List.rdropWhile_eq_nil_iff.1 empty 45 (by simp [Nat.add_comm 2])
        exact absurd white (by decide)
    · have isText : line ≠ [] := by
        rintro rfl
        have atStart := indexOf_nil found
        obtain rfl : k = 0 := by omega
        exact empty rfl
      refine not_shifted whole isBlank empty marks (fun j inFront => ?_) ends first (by simpa using oneLine)
      have isPrefix : trimEnd (left.take k) <+: left.take k := List.rdropWhile_prefix _ _
      have inLeft : OccursAt line left j := inFront.mono (isPrefix.trans (List.take_prefix _ _))
      have before : j < k := by
        have small := inFront.lt_length isText
        have le := isPrefix.length_le
        rw [List.length_take] at le
        omega
      exact first' _ (Nat.add_lt_add_left before _) (occursAt_append_right.2 inLeft)

end Kept

/-- A marker that is one of the body's lines is found in it. -/
theorem indexOf_line (isLine : line ∈ body.splitOnP (· = 10)) : (∃ i, indexOf line body = some i) ∧ 10 ∉ line := by
  constructor
  · cases found : indexOf line body with
    | some i => exact ⟨i, rfl⟩
    | none =>
      obtain ⟨front, back, rfl⟩ := splitOnP_infix isLine
      exact absurd (occursAt_append front line back) (indexOf_eq_none.1 found _ (by simp))
  · intro newline
    simpa using splitOnP_clean isLine 10 newline

/-- To switch identities replaces our own signature just when nothing like the first one's block begins after the
place where it was put. -/
theorem switches_iff_removable (body : JsString) (first second : MailIdentity) (marker : Option JsString)
    (isLine : ∀ line ∈ marker, line ∈ body.splitOnP (· = 10)) :
    Switches body first second marker ↔ Removable body first marker := by
  have known : ∀ line ∈ marker, ∃ i, indexOf line body = some i := fun line member => (indexOf_line (isLine line member)).1
  by_cases blank : first.signature.trim = []
  · refine iff_of_true (switches_of_stripped known ?_) (Or.inl blank)
    rw [signed_blank blank, stripSignature_blank blank]
  by_cases below : first.signaturePlacement = .belowQuote
  · refine iff_of_true (switches_of_stripped known ?_) (Or.inr (Or.inl below))
    rw [signed_below blank below, strip_end blank]
  cases marker with
  | none =>
    refine iff_of_true (switches_of_stripped known ?_) (Or.inr (Or.inr fun line member => by cases member))
    rw [signed_none blank, strip_end blank]
  | some line =>
    obtain ⟨⟨i, found⟩, oneLine⟩ := indexOf_line (isLine line rfl)
    have isSigned := signed_above blank below found
    rw [List.append_assoc] at isSigned
    rw [Switches, switched_eq, isSigned]
    constructor
    · intro switches
      refine Or.inr (Or.inr fun other isLine' place isPlace j later occurs => ?_)
      cases isLine'
      cases found.symm.trans isPlace
      obtain ⟨left, stripped, lengths, starts⟩ :=
        @stripSignature_later _ (trimEnd (body.take i)) _ _ blank later occurs
      rw [stripped] at switches
      have longer : left.length = (body.drop i).length + 2 := by
        rw [lengths, List.length_append, List.length_cons, List.length_cons, List.length_nil]
        omega
      by_cases after : second.signature.trim = [] ∨ second.signaturePlacement = .belowQuote
      · exact not_sameUpTo_after found longer starts after switches
      · obtain ⟨signs, above⟩ := not_or.1 after
        exact not_sameUpTo_above found oneLine longer starts signs above switches
    · rintro (isBlank | isBelow | removable)
      · exact absurd isBlank blank
      · exact absurd isBelow below
      · rw [stripSignature_last blank (removable line rfl i found)]
        exact sameUpTo_of_removed found oneLine

/-- An identity that signs above the quote. -/
def signing (name signature : String) : MailIdentity :=
  ⟨⟨ofString "1", identifierSchema_one⟩, ⟨ofString "work", identifierSchema_work⟩, ofString name, ofString "me@work.example", [], [], ofString signature,
    .belowBody, false, 0⟩

theorem reply_switches : Switches (ofString "Hi\n> a") (signing "Me" "Me") (signing "Work" "Work") (some (ofString "> a")) ↔
    Removable (ofString "Hi\n> a") (signing "Me" "Me") (some (ofString "> a")) :=
  switches_iff_removable _ _ _ _ (by decide)

/-- A message of our own is forwarded, with the signature that it was sent with. -/
def forwarded : JsString := ofString "See\nForwarded\nHi\n-- \nMe"

/-- The forwarded message loses its signature. -/
theorem forwarded_not_switches : ofString "Forwarded" ∈ forwarded.splitOnP (· = 10) ∧
    (signing "Me" "Me").signature ≠ [] ∧ (signing "Work" "Work").signature ≠ [] ∧
      ¬ Switches forwarded (signing "Me" "Me") (signing "Work" "Work") (some (ofString "Forwarded")) := by
  refine ⟨by decide, by decide, by decide, ?_⟩
  rintro ⟨front, -, switches, -, -⟩
  have isSuffix : fromQuote forwarded (signing "Work" "Work") (ofString "Forwarded") <:+
      switched forwarded (signing "Me" "Me") (signing "Work" "Work") (some (ofString "Forwarded")) := ⟨front, switches.symm⟩
  revert isSuffix
  decide

end Switching

end Identities
