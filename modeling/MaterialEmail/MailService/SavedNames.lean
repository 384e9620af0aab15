import MaterialEmail.MailService.AttachmentSafety
import MaterialEmail.Library.LastPart

/-! The names that attachments are saved under, and what the classifier says of them. -/
namespace MailService

open JsString LastPart

section Names

/-- `isPathSeparator` of Windows. -/
def isPathSeparator (unit : UInt16) : Bool := unit = 92 || unit = 47

/-- A path without the drive in front. -/
def withoutDrive : JsString → JsString
  | root :: colon :: rest => if isLetter root && colon = 58 then rest else root :: colon :: rest
  | path => path

/-- `path.basename` of Windows: separators at the end are left out. -/
def basename (path : JsString) : JsString :=
  ((withoutDrive path).rdropWhile isPathSeparator).rtakeWhile fun unit => !isPathSeparator unit

/-- `/[<>:"/\\|?*\u0000-\u001F]/`. -/
def isReserved (unit : UInt16) : Bool := unit ≤ 31 || unit ∈ [60, 62, 58, 34, 47, 92, 124, 63, 42]

def replaceReserved (unit : UInt16) : UInt16 := if isReserved unit then 95 else unit

/-- `#safeFilename`. -/
def safeFilename (value : JsString) : JsString :=
  let normalized := trim ((basename value).map replaceReserved)
  if normalized = [] then ofString "attachment" else normalized

/-- White space that is not replaced, and goes when it stands at an end. -/
def isBlank (unit : UInt16) : Bool := isWhiteSpace unit && !isReserved unit

def withoutBlanks (text : JsString) : JsString := (text.dropWhile isBlank).rdropWhile isBlank

theorem filenameOnly_eq (value : JsString) : filenameOnly value = value.rtakeWhile fun unit => !isPathSeparator unit := by
  unfold filenameOnly
  rw [getLast?_splitOnP]
  rfl

theorem withoutDrive_suffix (path : JsString) : withoutDrive path <:+ path := by
  unfold withoutDrive
  split
  · split
    · exact List.suffix_append [_, _] _
    · exact List.suffix_rfl
  · exact List.suffix_rfl

theorem trim_replaced (text : JsString) :
    trim (text.map replaceReserved) = (withoutBlanks text).map replaceReserved := by
  have same : isWhiteSpace ∘ replaceReserved = isBlank := by
    funext unit
    cases reserved : isReserved unit with
    | true =>
      simp only [Function.comp_apply, replaceReserved, isBlank, reserved, if_true, Bool.not_true, Bool.and_false]
      decide
    | false => simp [replaceReserved, isBlank, reserved]
  rw [trim, List.dropWhile_map, map_rdropWhile, same, withoutBlanks]

theorem separator_reserved {unit : UInt16} (separates : isPathSeparator unit = true) : isReserved unit = true := by
  rw [isPathSeparator, Bool.or_eq_true, decide_eq_true_eq, decide_eq_true_eq] at separates
  rcases separates with rfl | rfl <;> decide

theorem filenameOnly_safeFilename (filename : JsString) : filenameOnly (safeFilename filename) = safeFilename filename := by
  rw [filenameOnly_eq, List.rtakeWhile_eq_self_iff]
  intro unit member
  unfold safeFilename at member
  rw [trim_replaced] at member
  dsimp only at member
  split at member
  · revert unit
    decide
  · obtain ⟨original, -, rfl⟩ := List.mem_map.1 member
    rw [Bool.not_eq_true']
    cases separates : isPathSeparator (replaceReserved original) with
    | false => rfl
    | true =>
      have reserved := separator_reserved separates
      unfold replaceReserved at reserved
      split at reserved
      · cases reserved
      · rename_i plain
        exact absurd reserved plain

end Names

section Extensions

variable {letters : LetterCase} {extensions : List JsString}

/-- Any extension that makes a file run, install or open something, or carry macros. -/
def activeExtensions : List JsString :=
  windowsExecutableExtensions ++ windowsScriptExtensions ++ windowsShortcutExtensions ++ windowsInstallerExtensions ++
    macroEnabledExtensions

theorem activeExtensions_clean : ∀ extension ∈ activeExtensions, ∀ unit ∈ extension,
    (isReserved unit || unit = 95 || isWhiteSpace unit) = false := by decide +kernel

theorem atLastDot_map (text : JsString) :
    atLastDot (text.map replaceReserved) =
      (atLastDot text).map fun parts => (parts.1.map replaceReserved, parts.2.map replaceReserved) := by
  have dot (unit : UInt16) : replaceReserved unit = 46 ↔ unit = 46 := by
    unfold replaceReserved
    split
    · rename_i reserved
      constructor
      · intro wrong
        cases wrong
      · rintro rfl
        cases reserved
    · exact Iff.rfl
  have same : (fun unit : UInt16 => decide (unit ≠ 46)) ∘ replaceReserved = fun unit => decide (unit ≠ 46) := by
    funext unit
    simp [dot]
  have member : 46 ∈ text.map replaceReserved ↔ 46 ∈ text := by
    simp [dot]
  unfold atLastDot
  rw [map_rdropWhile, map_rtakeWhile, same]
  simp only [member, ← List.map_dropLast, ne_eq, List.map_eq_nil_iff]
  split <;> rfl

theorem atLastDot_append {front back before extension : JsString} (cut : atLastDot back = some (before, extension)) :
    atLastDot (front ++ back) = some (front ++ before, extension) := by
  unfold atLastDot at cut ⊢
  dsimp only at cut ⊢
  split at cut
  · rename_i parted
    obtain ⟨dotted, open_⟩ := parted
    cases cut
    have left : back.rdropWhile (fun unit => decide (unit ≠ 46)) ≠ [] := fun empty => open_ (by rw [empty]; rfl)
    have stops : ∃ unit ∈ back, decide (unit ≠ 46) = false := ⟨46, dotted, by decide⟩
    rw [LastPart.rdropWhile_append left, LastPart.rtakeWhile_append stops, List.dropLast_append_of_ne_nil left, if_pos]
    exact ⟨List.mem_append_right _ dotted, fun empty => open_ (List.append_eq_nil_iff.1 empty).2⟩
  · cases cut

theorem extensionOf_mem_iff (nonempty : [] ∉ extensions) {text : JsString} : extensionOf letters text ∈ extensions ↔
    ∃ before extension, atLastDot (text.rdropWhile isDotOrSpace) = some (before, extension) ∧
      letters.lower extension ∈ extensions := by
  unfold extensionOf
  cases atLastDot (text.rdropWhile isDotOrSpace) with
  | none => simp [nonempty]
  | some parts =>
    constructor
    · intro listed
      exact ⟨parts.1, parts.2, rfl, listed⟩
    · rintro ⟨_, _, ⟨⟩, listed⟩
      exact listed

theorem extensionOf_suffix (nonempty : [] ∉ extensions) {short long : JsString} (suffix : short <:+ long)
    (listed : extensionOf letters short ∈ extensions) : extensionOf letters long ∈ extensions := by
  obtain ⟨front, rfl⟩ := suffix
  obtain ⟨before, extension, cut, isListed⟩ := (extensionOf_mem_iff nonempty).1 listed
  refine (extensionOf_mem_iff nonempty).2 ⟨front ++ before, extension, ?_, isListed⟩
  have left : short.rdropWhile isDotOrSpace ≠ [] := by
    intro empty
    rw [empty] at cut
    cases cut
  rw [LastPart.rdropWhile_append left]
  exact atLastDot_append cut

end Extensions

section Classes

variable (letters : LetterCase)

/-- The reasons that are told from what the extension makes of a file. -/
def isActive : AttachmentRiskReason → Bool
  | .windowsExecutable | .windowsScript | .windowsShortcut | .windowsInstaller | .macroEnabledDocument => true
  | _ => false

theorem active_reason_iff {filename contentType : JsString} :
    (∃ reason ∈ (classifyAttachment letters filename contentType).reasons, isActive reason = true) ↔
      extensionOf letters (filenameOnly filename) ∈ activeExtensions := by
  have listed (reason : AttachmentRiskReason) : reason ∈ reasonOrder := by cases reason <;> decide
  simp only [classifyAttachment, List.mem_filter, listed, true_and, activeExtensions, List.mem_append]
  constructor
  · rintro ⟨reason, found, isActive⟩
    cases reason <;> simp_all [applies, MailService.isActive]
  · rintro ((((found | found) | found) | found) | found)
    · exact ⟨.windowsExecutable, by simpa [applies] using found, rfl⟩
    · exact ⟨.windowsScript, by simpa [applies] using found, rfl⟩
    · exact ⟨.windowsShortcut, by simpa [applies] using found, rfl⟩
    · exact ⟨.windowsInstaller, by simpa [applies] using found, rfl⟩
    · exact ⟨.macroEnabledDocument, by simpa [applies] using found, rfl⟩

theorem ordinary_iff {filename contentType : JsString} :
    (classifyAttachment letters filename contentType).level = .ordinary ↔
      ∀ reason, applies letters (filenameOnly filename) contentType reason = false := by
  have listed (reason : AttachmentRiskReason) : reason ∈ reasonOrder := by cases reason <;> decide
  unfold classifyAttachment
  dsimp only
  split
  · rename_i dangerous
    obtain ⟨reason, found, -⟩ := List.any_eq_true.1 dangerous
    have isFound := (List.mem_filter.1 found).2
    constructor
    · intro wrong
      cases wrong
    · intro none_
      rw [none_ reason] at isFound
      cases isFound
  · split
    · rename_i some_
      obtain ⟨reason, found⟩ := List.exists_mem_of_ne_nil _ some_
      have isFound := (List.mem_filter.1 found).2
      constructor
      · intro wrong
        cases wrong
      · intro none_
        rw [none_ reason] at isFound
        cases isFound
    · rename_i empty
      rw [ne_eq, not_not, List.filter_eq_nil_iff] at empty
      exact ⟨fun _ reason => by simpa using empty reason (listed reason), fun _ => rfl⟩

end Classes

section Saving

variable {letters : LetterCase} {filename contentType : JsString}

/-- What is no letter is no letter in lower case either. -/
def KeepsMarks (letters : LetterCase) : Prop :=
  ∀ unit, (isReserved unit || unit = 95 || isWhiteSpace unit) = true →
    ∀ text, unit ∈ text → unit ∈ letters.lower text

/-- An attachment that is saved as it is has no other extension under the name that it is written to. -/
def StaysOrdinary (letters : LetterCase) (filename contentType : JsString) : Prop :=
  (classifyAttachment letters filename contentType).level = .ordinary →
    ∀ reason ∈ (classifyAttachment letters (safeFilename filename) contentType).reasons, isActive reason = false

/-- The name ends in a unit that is left out when it is written, and there is an extension before it. -/
structure Disguised (letters : LetterCase) (filename : JsString) : Prop where
  ends : ∃ last ∈ filename.getLast?, isPathSeparator last = true ∨ (isBlank last = true ∧ last ≠ 32)
  active : extensionOf letters (withoutBlanks (basename filename)) ∈ activeExtensions
  single : hasDeceptiveDoubleExtension letters (filenameOnly filename) = false
  leftToRight : (filenameOnly filename).any isBidirectionalControl = false

theorem activeExtensions_nonempty : [] ∉ activeExtensions := by decide

theorem extensionOf_nil : extensionOf letters [] = [] := rfl

theorem extensionOf_attachment : extensionOf letters (ofString "attachment") = [] := by
  have undotted : atLastDot ((ofString "attachment").rdropWhile isDotOrSpace) = none := by decide
  rw [extensionOf, undotted]

theorem extensionOf_replaced (keeps : KeepsMarks letters) (text : JsString) :
    extensionOf letters (text.map replaceReserved) ∈ activeExtensions ↔ extensionOf letters text ∈ activeExtensions := by
  have ends : isDotOrSpace ∘ replaceReserved = isDotOrSpace := by
    funext unit
    cases reserved : isReserved unit with
    | false => simp [replaceReserved, reserved]
    | true =>
      have other : isDotOrSpace unit = false := by
        cases dotted : isDotOrSpace unit with
        | false => rfl
        | true =>
          rw [isDotOrSpace, Bool.or_eq_true, decide_eq_true_eq, decide_eq_true_eq] at dotted
          rcases dotted with rfl | rfl <;> cases reserved
      rw [Function.comp_apply, replaceReserved, if_pos reserved, other]
      rfl
  rw [extensionOf_mem_iff activeExtensions_nonempty, extensionOf_mem_iff activeExtensions_nonempty, map_rdropWhile, ends,
    atLastDot_map]
  cases atLastDot (text.rdropWhile isDotOrSpace) with
  | none => simp
  | some parts =>
    obtain ⟨before, extension⟩ := parts
    simp only [Option.map_some, Option.some.injEq, Prod.mk.injEq]
    by_cases clean : ∃ unit ∈ extension, isReserved unit = true
    · obtain ⟨unit, member, reserved⟩ := clean
      have lost {shown : JsString} {mark : UInt16} (isMark : (isReserved mark || mark = 95 || isWhiteSpace mark) = true)
          (inside : mark ∈ shown) : letters.lower shown ∉ activeExtensions := fun listed => by
        have none_ := activeExtensions_clean _ listed mark (keeps mark isMark shown inside)
        rw [isMark] at none_
        cases none_
      have replaced : (95 : UInt16) ∈ extension.map replaceReserved :=
        List.mem_map.2 ⟨unit, member, by rw [replaceReserved, if_pos reserved]⟩
      have first := lost (by decide) replaced
      have second := lost (by rw [reserved]; rfl) member
      constructor
      · rintro ⟨_, _, ⟨-, rfl⟩, listed⟩
        exact absurd listed first
      · rintro ⟨_, _, ⟨-, rfl⟩, listed⟩
        exact absurd listed second
    · have same : extension.map replaceReserved = extension := by
        refine (List.map_congr_left fun unit member => ?_).trans (List.map_id extension)
        rw [replaceReserved, if_neg fun reserved => clean ⟨unit, member, reserved⟩, id]
      simp [same]

theorem written_active_iff (keeps : KeepsMarks letters) :
    (∃ reason ∈ (classifyAttachment letters (safeFilename filename) contentType).reasons, isActive reason = true) ↔
      extensionOf letters (withoutBlanks (basename filename)) ∈ activeExtensions := by
  rw [active_reason_iff, filenameOnly_safeFilename, ← extensionOf_replaced keeps (withoutBlanks (basename filename)),
    safeFilename, trim_replaced]
  split
  · rename_i empty
    rw [empty, extensionOf_attachment, extensionOf_nil]
  · exact Iff.rfl

/-- A name that does not end in a separator has its last part written, or what stands behind the drive in it. -/
theorem basename_suffix (closed : ∀ last ∈ filename.getLast?, isPathSeparator last = false) :
    basename filename <:+ filenameOnly filename := by
  have suffix := withoutDrive_suffix filename
  rw [basename, rdropWhile_of_suffix suffix closed, filenameOnly_eq]
  exact rtakeWhile_suffix suffix

theorem withoutBlanks_suffix {text : JsString} (closed : ∀ last ∈ text.getLast?, isBlank last = false) :
    withoutBlanks text <:+ text := by
  have suffix : text.dropWhile isBlank <:+ text := List.dropWhile_suffix _
  rw [withoutBlanks, rdropWhile_of_suffix suffix closed]
  exact suffix

theorem filenameOnly_suffix (filename : JsString) : filenameOnly filename <:+ filename := by
  rw [filenameOnly_eq]
  exact List.rtakeWhile_suffix _ _

theorem activeExtensions_ne (extension : JsString) (notActive : extension ∉ activeExtensions) :
    extension ∉ windowsExecutableExtensions ∧ extension ∉ windowsScriptExtensions ∧
      extension ∉ windowsShortcutExtensions ∧ extension ∉ windowsInstallerExtensions ∧
      extension ∉ macroEnabledExtensions := by
  simpa [activeExtensions, and_assoc] using notActive

theorem filenameOnly_open {last : UInt16} (isLast : last ∈ filename.getLast?) (separates : isPathSeparator last = true) :
    filenameOnly filename = [] := by
  rw [filenameOnly_eq, List.rtakeWhile_eq_nil_iff]
  intro nonempty
  rw [List.getLast?_eq_some_getLast nonempty, Option.mem_some_iff] at isLast
  simp [isLast, separates]

theorem extensionOf_blank (keeps : KeepsMarks letters) {leaf : JsString} {last : UInt16} (isLast : last ∈ leaf.getLast?)
    (white : isWhiteSpace last = true) (other : last ≠ 32) :
    extensionOf letters leaf = [] ∨ last ∈ extensionOf letters leaf := by
  have undotted : last ≠ 46 := by
    rintro rfl
    cases white
  have whole : leaf.rdropWhile isDotOrSpace = leaf := by
    refine rdropWhile_of_suffix List.suffix_rfl fun unit isUnit => ?_
    obtain rfl : unit = last := Option.mem_unique isUnit isLast
    simp [isDotOrSpace, undotted, other]
  unfold extensionOf
  rw [whole]
  cases cut : atLastDot leaf with
  | none => exact Or.inl rfl
  | some parts =>
    right
    apply keeps last (by simp [white])
    unfold atLastDot at cut
    dsimp only at cut
    split at cut
    · cases cut
      obtain ⟨front, rfl⟩ : ∃ front, leaf = front ++ [last] := by
        obtain ⟨nonempty, rfl⟩ := List.mem_getLast?_eq_getLast isLast
        exact ⟨_, (List.dropLast_append_getLast nonempty).symm⟩
      rw [List.rtakeWhile_concat_pos _ _ _ (by simpa using undotted)]
      simp
    · cases cut

theorem tables_plain : ∀ entry ∈ mimeTypesByExtension, ∀ unit ∈ entry.1, isWhiteSpace unit = false := by decide

theorem unmatched_of_blank {extension : JsString} (bare : extension = [] ∨ ∃ unit ∈ extension, isWhiteSpace unit = true) :
    hasMimeExtensionMismatch letters extension contentType = false := by
  unfold hasMimeExtensionMismatch
  dsimp only
  split
  · rfl
  · rename_i known
    obtain ⟨unit, member, white⟩ := bare.resolve_left (not_or.1 known).1
    have unknown : mimeTypesByExtension.find? (fun entry => entry.1 = extension) = none := by
      rw [List.find?_eq_none]
      intro entry isEntry same
      have clean := tables_plain entry isEntry unit (of_decide_eq_true same ▸ member)
      rw [white] at clean
      cases clean
    rw [unknown]

theorem separates_blank {unit : UInt16} (blank : isBlank unit = true) : isPathSeparator unit = false := by
  by_contra separates
  have reserved := separator_reserved (by simpa using separates)
  simp [isBlank, reserved] at blank

theorem filenameOnly_getLast? {last : UInt16} (isLast : last ∈ filename.getLast?) (inside : isPathSeparator last = false) :
    last ∈ (filenameOnly filename).getLast? := by
  obtain ⟨nonempty, rfl⟩ := List.mem_getLast?_eq_getLast isLast
  have split := List.dropLast_append_getLast nonempty
  have last_ := List.rtakeWhile_concat_pos (fun unit => !isPathSeparator unit) filename.dropLast
    (filename.getLast nonempty) (by simp [inside])
  rw [split] at last_
  rw [filenameOnly_eq, last_]
  simp

/-- What ends in a separator, or in a blank that is no space, has no reason against it from its extension or its end. -/
theorem ordinary_of_open (keeps : KeepsMarks letters)
    (ends : ∃ last ∈ filename.getLast?, isPathSeparator last = true ∨ (isBlank last = true ∧ last ≠ 32))
    (single : hasDeceptiveDoubleExtension letters (filenameOnly filename) = false)
    (leftToRight : (filenameOnly filename).any isBidirectionalControl = false) :
    (classifyAttachment letters filename contentType).level = .ordinary := by
  rw [ordinary_iff]
  obtain ⟨last, isLast, open_⟩ := ends
  have unlisted : (extensionOf letters (filenameOnly filename) = [] ∨
      ∃ unit ∈ extensionOf letters (filenameOnly filename), isWhiteSpace unit = true) ∧
        (filenameOnly filename).getLast?.any isDotOrSpace = false := by
    rcases open_ with separates | ⟨blank, other⟩
    · rw [filenameOnly_open isLast separates]
      exact ⟨Or.inl rfl, rfl⟩
    · have white : isWhiteSpace last = true := (Bool.and_eq_true_iff.1 blank).1
      have leafLast : last ∈ (filenameOnly filename).getLast? := filenameOnly_getLast? isLast (separates_blank blank)
      refine ⟨(extensionOf_blank keeps leafLast white other).imp id fun member => ⟨last, member, white⟩, ?_⟩
      rw [Option.mem_def.1 leafLast]
      simp only [Option.any_some, isDotOrSpace, other, decide_false, Bool.or_false, decide_eq_false_iff_not]
      rintro rfl
      cases white
  obtain ⟨bare, unending⟩ := unlisted
  have inactive : extensionOf letters (filenameOnly filename) ∉ activeExtensions := by
    rcases bare with empty | ⟨unit, member, white⟩
    · rw [empty]
      exact activeExtensions_nonempty
    · intro listed
      have clean := activeExtensions_clean _ listed unit member
      simp [white] at clean
  have unmatched : hasMimeExtensionMismatch letters (extensionOf letters (filenameOnly filename)) contentType = false :=
    unmatched_of_blank bare
  obtain ⟨executable, script, shortcut, installer, macros⟩ := activeExtensions_ne _ inactive
  intro reason
  cases reason with
  | bidirectionalControl => exact leftToRight
  | doubleExtension => exact single
  | trailingDotOrSpace => exact unending
  | mimeExtensionMismatch => exact unmatched
  | _ => simpa [applies]

/-- An attachment that is classed as ordinary is written under a name that runs, installs or opens nothing, unless its name
ends in a separator or in white space other than a space, which hides the extension from the classifier. -/
theorem saved_name_iff (keeps : KeepsMarks letters) :
    StaysOrdinary letters filename contentType ↔ ¬ Disguised letters filename := by
  constructor
  · intro stays disguised
    have ordinary := @ordinary_of_open letters filename contentType keeps disguised.ends disguised.single
      disguised.leftToRight
    obtain ⟨reason, found, active⟩ := (@written_active_iff letters filename contentType keeps).2 disguised.active
    rw [stays ordinary reason found] at active
    cases active
  · intro plain ordinary reason found
    by_contra active
    rw [Bool.not_eq_false] at active
    have listed := (@written_active_iff letters filename contentType keeps).1 ⟨reason, found, active⟩
    have none_ := (ordinary_iff letters).1 ordinary
    by_cases ends : ∃ last ∈ filename.getLast?, isPathSeparator last = true ∨ (isBlank last = true ∧ last ≠ 32)
    · exact plain ⟨ends, listed, none_ .doubleExtension, none_ .bidirectionalControl⟩
    · have closed : ∀ last ∈ filename.getLast?, isPathSeparator last = false := fun last isLast => by
        by_contra separates
        exact ends ⟨last, isLast, Or.inl (by simpa using separates)⟩
      have suffix := basename_suffix closed
      have unblank : ∀ last ∈ (basename filename).getLast?, isBlank last = false := by
        intro last isLast
        have leafLast := getLast?_of_suffix suffix isLast
        by_contra blank
        have space : last = 32 := by
          by_contra other
          have named := getLast?_of_suffix (filenameOnly_suffix filename) leafLast
          exact ends ⟨last, named, Or.inr ⟨by simpa using blank, other⟩⟩
        have trailing := none_ .trailingDotOrSpace
        rw [applies, Option.mem_def.1 leafLast, space] at trailing
        cases trailing
      have leafListed := extensionOf_suffix activeExtensions_nonempty ((withoutBlanks_suffix unblank).trans suffix) listed
      obtain ⟨reason, found, -⟩ := (@active_reason_iff letters filename contentType).2 leafListed
      have applied := (List.mem_filter.1 found).2
      rw [none_ reason] at applied
      cases applied

theorem keepsMarks_ascii : KeepsMarks .ascii := by
  intro unit mark text member
  have same : asciiLower unit = unit := by
    clear member
    unfold asciiLower
    split
    · rename_i upper
      obtain ⟨letter, rfl⟩ := upper_eq upper
      revert mark letter
      decide
    · rfl
  exact same ▸ List.mem_map_of_mem member

/-- A blank that is no space stands behind the name of a text. -/
def blankMenu : JsString := ofString "menu.txt" ++ [0xA0]

theorem blankMenu_stays : StaysOrdinary .ascii blankMenu (ofString "text/plain") :=
  (saved_name_iff keepsMarks_ascii).2 fun disguised => absurd disguised.active (by decide)

/-- The program is saved without a review, under the name of a program. -/
theorem blankProgram_saved :
    (classifyAttachment .ascii (ofString "menu.exe" ++ [0xA0]) (ofString "text/plain")).level = .ordinary ∧
      safeFilename (ofString "menu.exe" ++ [0xA0]) = ofString "menu.exe" ∧
      ¬ StaysOrdinary .ascii (ofString "menu.exe" ++ [0xA0]) (ofString "text/plain") := by
  refine ⟨by decide +kernel, by decide, fun stays => ?_⟩
  have inactive := stays (by decide +kernel) .windowsExecutable (by decide)
  cases inactive

end Saving
end MailService
