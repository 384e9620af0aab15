import MaterialEmail.CachedMail.Conversations
import MaterialEmail.Library.Fallible
import MaterialEmail.Library.Selection
import Mathlib.Data.List.Pairwise

/-! The conversations of a list of cached messages are the connected components of sharing a subject or a reference,
whatever the order of the list. -/
namespace CachedMail

open Interrupted JsString MailService Relation

variable (host : Host)

/-- Two messages share a subject that says something, or a reference. -/
def Sharing (left right : MessageSummary) : Prop :=
  (normalizedConversationSubject host left.subject = normalizedConversationSubject host right.subject ∧
    normalizedConversationSubject host left.subject ≠ [] ∧
    normalizedConversationSubject host left.subject ≠ ofString "(no subject)") ∨
  ∃ token, token ∈ referenceTokens host left ∧ token ∈ referenceTokens host right

/-- A chain of listed messages, each sharing with the next. -/
def Linked (messages : List MessageSummary) : MessageSummary → MessageSummary → Prop :=
  ReflTransGen fun left right => left ∈ messages ∧ right ∈ messages ∧ Sharing host left right

section Keys

/-- What a message is joined by: its subject, and the references it names. -/
def keysOf (message : MessageSummary) : List (JsString ⊕ JsString) :=
  (if normalizedConversationSubject host message.subject ≠ [] ∧
      normalizedConversationSubject host message.subject ≠ ofString "(no subject)"
    then [.inl (normalizedConversationSubject host message.subject)] else []) ++
    (referenceTokens host message).map .inr

theorem sharing_iff {left right : MessageSummary} :
    Sharing host left right ↔ ∃ key, key ∈ keysOf host left ∧ key ∈ keysOf host right := by
  unfold Sharing keysOf
  constructor
  · rintro (⟨same, some_, named⟩ | ⟨token, one, two⟩)
    · refine ⟨.inl (normalizedConversationSubject host left.subject), ?_, ?_⟩
      · rw [if_pos ⟨some_, named⟩]
        simp
      · rw [same] at some_ named
        rw [if_pos ⟨some_, named⟩, same]
        simp
    · exact ⟨.inr token, by simp [one], by simp [two]⟩
  · rintro ⟨subject | token, one, two⟩
    · have one : subject = normalizedConversationSubject host left.subject ∧
          normalizedConversationSubject host left.subject ≠ [] ∧
          normalizedConversationSubject host left.subject ≠ ofString "(no subject)" := by
        split at one <;> simp_all
      have two : subject = normalizedConversationSubject host right.subject := by
        split at two <;> simp_all
      exact Or.inl ⟨one.1.symm.trans two, one.2⟩
    · have one : token ∈ referenceTokens host left := by
        split at one <;> simpa using one
      have two : token ∈ referenceTokens host right := by
        split at two <;> simpa using two
      exact Or.inr ⟨token, one, two⟩

/-- Each key of the entries, with the index of its message. -/
def seenIn (entries : List (MessageSummary × Nat)) : List ((JsString ⊕ JsString) × Nat) :=
  entries.flatMap fun entry => (keysOf host entry.1).map fun key => (key, entry.2)

theorem mem_seenIn {entries : List (MessageSummary × Nat)} {key : JsString ⊕ JsString} {index : Nat} :
    (key, index) ∈ seenIn host entries ↔ ∃ message, (message, index) ∈ entries ∧ key ∈ keysOf host message := by
  unfold seenIn
  simp only [List.mem_flatMap, List.mem_map, Prod.mk.injEq, Prod.exists]
  constructor
  · rintro ⟨message, other, listed, key', isKey, rfl, rfl⟩
    exact ⟨message, listed, isKey⟩
  · rintro ⟨message, listed, isKey⟩
    exact ⟨message, index, listed, key, isKey, rfl, rfl⟩

end Keys

section Linking

variable {size fuel : Nat} {seen : List ((JsString ⊕ JsString) × Nat)} {linking : Linking}

def Linking.firstOf (linking : Linking) : JsString ⊕ JsString → Option Nat
  | .inl subject => linking.subjects.lookup subject
  | .inr token => linking.references.lookup token

/-- The forest joins the indices of each key that was seen, and no others. -/
def Linking.Follows (size : Nat) (seen : List ((JsString ⊕ JsString) × Nat)) (linking : Linking) : Prop :=
  ∃ rootOf depth, Forest.Grown linking.parents size seen.length rootOf depth ∧
    Forest.Traced seen linking.firstOf rootOf ∧ ∀ entry ∈ seen, entry.2 < size

theorem follows_nil (size : Nat) : Linking.Follows size [] ⟨List.range size, [], []⟩ := by
  have nothing : (Linking.firstOf ⟨List.range size, [], []⟩) = fun _ => none := by
    funext key
    cases key <;> rfl
  exact ⟨_, _, Forest.grown_range size, nothing ▸ Forest.traced_nil, fun entry member => nomatch member⟩

theorem lookup_snoc {firsts : List (JsString × Nat)} {key : JsString} {index : Nat}
    (unknown : firsts.lookup key = none) (other : JsString) :
    (firsts ++ [(key, index)]).lookup other = if other = key then some index else firsts.lookup other := by
  rw [List.lookup_append]
  by_cases same : other = key
  · rw [same, unknown, if_pos rfl]
    simp
  · have differs : (other == key) = false := by simpa using same
    rw [if_neg same]
    simp [List.lookup_cons, differs]

theorem joinFirst_spec {parents : List Nat} {firsts : List (JsString × Nat)}
    {firstOf : JsString ⊕ JsString → Option Nat} {rootOf depth : Nat → Nat} (key : JsString ⊕ JsString)
    (text : JsString) {index : Nat} (grown : Forest.Grown parents size seen.length rootOf depth)
    (traced : Forest.Traced seen firstOf rootOf) (within : ∀ entry ∈ seen, entry.2 < size)
    (is : firstOf key = firsts.lookup text) (inside : index < size) (enough : seen.length ≤ fuel) :
    ∃ parents' firsts', joinFirst fuel parents firsts text index = .ok (parents', firsts') ∧
      (∀ other, other ≠ text → firsts'.lookup other = firsts.lookup other) ∧
      ∃ rootOf' depth', Forest.Grown parents' size (seen.length + 1) rootOf' depth' ∧
        Forest.Traced (seen ++ [(key, index)]) (Function.update firstOf key (firsts'.lookup text)) rootOf' := by
  cases found : firsts.lookup text with
  | none =>
    refine ⟨parents, firsts ++ [(text, index)], by rw [joinFirst, found], ?_, rootOf, depth,
      grown.deepen (Nat.le_succ _), ?_⟩
    · intro other differs
      rw [lookup_snoc found, if_neg differs]
    · rw [lookup_snoc found, if_pos rfl]
      exact traced.new index (is.trans found)
  | some existing =>
    have known : firstOf key = some existing := is.trans found
    have before := within _ (traced.first key existing known)
    obtain ⟨parents', joined, depth', grown'⟩ := Forest.union_spec grown enough before inside
    refine ⟨parents', firsts, ?_, fun other _ => rfl, _, depth', grown', ?_⟩
    · rw [joinFirst, found]
      simp only [joined]
      rfl
    · rw [found, ← known, Function.update_eq_self]
      exact traced.again index known

theorem within_snoc {key : JsString ⊕ JsString} {index : Nat} (within : ∀ entry ∈ seen, entry.2 < size)
    (inside : index < size) : ∀ entry ∈ seen ++ [(key, index)], entry.2 < size := by
  intro entry member
  rcases List.mem_append.1 member with old | new
  · exact within entry old
  · rw [List.mem_singleton.1 new]
    exact inside

theorem joinSubject_spec (follows : linking.Follows size seen) (subject : JsString) {index : Nat}
    (inside : index < size) (enough : seen.length ≤ fuel) :
    ∃ linking', joinSubject fuel linking subject index = .ok linking' ∧
      linking'.Follows size (seen ++ [(.inl subject, index)]) := by
  obtain ⟨rootOf, depth, grown, traced, within⟩ := follows
  obtain ⟨parents', subjects', joined, kept, rootOf', depth', grown', traced'⟩ :=
    joinFirst_spec (.inl subject) subject grown traced within rfl inside enough
  refine ⟨{ linking with parents := parents', subjects := subjects' }, by rw [joinSubject, joined]; rfl,
    rootOf', depth', by rwa [List.length_append], ?_, within_snoc within inside⟩
  convert traced' using 1
  funext key
  rcases key with other | token
  · by_cases same : other = subject
    · rw [same, Function.update_self]
      rfl
    · rw [Function.update_of_ne (fun is => same (Sum.inl.inj is))]
      exact kept other same
  · rw [Function.update_of_ne (by simp)]
    rfl

theorem joinReference_spec (follows : linking.Follows size seen) (token : JsString) {index : Nat}
    (inside : index < size) (enough : seen.length ≤ fuel) :
    ∃ linking', joinReference fuel index linking token = .ok linking' ∧
      linking'.Follows size (seen ++ [(.inr token, index)]) := by
  obtain ⟨rootOf, depth, grown, traced, within⟩ := follows
  obtain ⟨parents', references', joined, kept, rootOf', depth', grown', traced'⟩ :=
    joinFirst_spec (.inr token) token grown traced within rfl inside enough
  refine ⟨{ linking with parents := parents', references := references' }, by rw [joinReference, joined]; rfl,
    rootOf', depth', by rwa [List.length_append], ?_, within_snoc within inside⟩
  convert traced' using 1
  funext key
  rcases key with subject | other
  · rw [Function.update_of_ne (by simp)]
    rfl
  · by_cases same : other = token
    · rw [same, Function.update_self]
      rfl
    · rw [Function.update_of_ne (fun is => same (Sum.inr.inj is))]
      exact kept other same

/-- The references of one message, one after the other. -/
theorem joinReferences_spec {index : Nat} (inside : index < size) (tokens : List JsString)
    (follows : linking.Follows size seen) (enough : seen.length + tokens.length ≤ fuel) :
    ∃ linking', tokens.foldlM (joinReference fuel index) linking = .ok linking' ∧
      linking'.Follows size (seen ++ tokens.map fun token => (.inr token, index)) := by
  induction tokens generalizing seen linking with
  | nil => exact ⟨linking, rfl, by simpa using follows⟩
  | cons token rest ih =>
    rw [List.length_cons] at enough
    obtain ⟨next, first, follows'⟩ := joinReference_spec follows token inside (show _ ≤ fuel by omega)
    obtain ⟨last, later, follows''⟩ := ih follows' (by simp only [List.length_append, List.length_singleton]; omega)
    refine ⟨last, ?_, by simpa using follows''⟩
    rw [List.foldlM_cons, first]
    exact later

theorem joinMessage_spec {entry : MessageSummary × Nat} (inside : entry.2 < size)
    (follows : linking.Follows size seen) (enough : seen.length + (keysOf host entry.1).length ≤ fuel) :
    ∃ linking', joinMessage host fuel linking entry = .ok linking' ∧
      linking'.Follows size (seen ++ (keysOf host entry.1).map fun key => (key, entry.2)) := by
  unfold joinMessage
  unfold keysOf at enough ⊢
  by_cases named : normalizedConversationSubject host entry.1.subject ≠ [] ∧
      normalizedConversationSubject host entry.1.subject ≠ ofString "(no subject)"
  · simp only [if_pos named, List.length_append, List.length_map, List.length_singleton] at enough ⊢
    obtain ⟨next, first, follows'⟩ := joinSubject_spec follows
      (normalizedConversationSubject host entry.1.subject) inside (show _ ≤ fuel by omega)
    obtain ⟨last, later, follows''⟩ := joinReferences_spec inside (referenceTokens host entry.1)
      follows' (show _ ≤ fuel by simp only [List.length_append, List.length_singleton]; omega)
    refine ⟨last, ?_, by simpa [Function.comp_def] using follows''⟩
    rw [first]
    exact later
  · simp only [if_neg named, List.length_append, List.length_map, List.length_nil, Nat.zero_add] at enough ⊢
    obtain ⟨last, later, follows''⟩ := joinReferences_spec inside (referenceTokens host entry.1)
      follows enough
    exact ⟨last, later, by simpa [Function.comp_def] using follows''⟩

theorem joinMessages_spec (entries : List (MessageSummary × Nat)) (inside : ∀ entry ∈ entries, entry.2 < size)
    (follows : linking.Follows size seen) (enough : seen.length + (seenIn host entries).length ≤ fuel) :
    ∃ linking', entries.foldlM (joinMessage host fuel) linking = .ok linking' ∧
      linking'.Follows size (seen ++ seenIn host entries) := by
  induction entries generalizing seen linking with
  | nil => exact ⟨linking, rfl, by simpa [seenIn] using follows⟩
  | cons entry rest ih =>
    have parts : seenIn host (entry :: rest) =
        ((keysOf host entry.1).map fun key => (key, entry.2)) ++ seenIn host rest := List.flatMap_cons
    rw [parts, List.length_append, List.length_map] at enough
    obtain ⟨next, first, follows'⟩ := joinMessage_spec host (inside entry List.mem_cons_self) follows
      (show _ ≤ fuel by omega)
    obtain ⟨last, later, follows''⟩ := ih (fun other member => inside other (List.mem_cons_of_mem _ member)) follows'
      (by simp only [List.length_append, List.length_map]; omega)
    refine ⟨last, ?_, by rw [parts, ← List.append_assoc]; exact follows''⟩
    rw [List.foldlM_cons, first]
    exact later

end Linking

section Collecting

variable {rootOf depth : Nat → Nat} {size bound fuel : Nat}

/-- Components of entries whose roots are known. -/
structure Gathers (rootOf : Nat → Nat) (entries : List (MessageSummary × Nat))
    (components : List (Nat × List MessageSummary)) : Prop where
  once : (components.flatMap fun component => component.2).Perm (entries.map fun entry => entry.1)
  roots : (components.map fun component => component.1).Nodup
  filled : ∀ component ∈ components, component.2 ≠ []
  rooted : ∀ component ∈ components, ∀ message ∈ component.2,
    ∃ index, (message, index) ∈ entries ∧ rootOf index = component.1

theorem gathers_nil (rootOf : Nat → Nat) : Gathers rootOf [] [] :=
  ⟨.nil, .nil, fun _ member => (nomatch member), fun _ member => (nomatch member)⟩

theorem addTo_once (root : Nat) (message : MessageSummary) (components : List (Nat × List MessageSummary)) :
    ((addTo root message components).flatMap fun component => component.2).Perm
      ((components.flatMap fun component => component.2) ++ [message]) := by
  induction components with
  | nil => exact .refl _
  | cons component rest ih =>
    obtain ⟨other, listed⟩ := component
    rw [addTo]
    split
    · rw [List.flatMap_cons, List.flatMap_cons, List.append_assoc, List.append_assoc]
      exact .append_left _ List.perm_append_comm
    · rw [List.flatMap_cons, List.flatMap_cons, List.append_assoc]
      exact ih.append_left _

theorem mem_addTo {root : Nat} {message : MessageSummary} {components : List (Nat × List MessageSummary)}
    {component : Nat × List MessageSummary} (member : component ∈ addTo root message components) :
    component ∈ components ∨ component = (root, [message]) ∨
      ∃ before, (root, before) ∈ components ∧ component = (root, before ++ [message]) := by
  induction components with
  | nil => exact Or.inr (Or.inl (List.mem_singleton.1 member))
  | cons head rest ih =>
    obtain ⟨other, listed⟩ := head
    rw [addTo] at member
    split at member
    · rename_i same
      rcases List.mem_cons.1 member with is | later
      · exact Or.inr (Or.inr ⟨listed, by rw [same]; exact List.mem_cons_self, by rw [is, same]⟩)
      · exact Or.inl (List.mem_cons_of_mem _ later)
    · rcases List.mem_cons.1 member with is | later
      · exact Or.inl (is ▸ List.mem_cons_self)
      · rcases ih later with old | new | ⟨before, was, is⟩
        · exact Or.inl (List.mem_cons_of_mem _ old)
        · exact Or.inr (Or.inl new)
        · exact Or.inr (Or.inr ⟨before, List.mem_cons_of_mem _ was, is⟩)

theorem addTo_roots (root : Nat) (message : MessageSummary) (components : List (Nat × List MessageSummary)) :
    (addTo root message components).map (fun component => component.1) =
      if root ∈ components.map fun component => component.1 then components.map fun component => component.1
      else (components.map fun component => component.1) ++ [root] := by
  induction components with
  | nil => rfl
  | cons head rest ih =>
    obtain ⟨other, listed⟩ := head
    rw [addTo]
    by_cases same : other = root
    · simp [same]
    · rw [if_neg same, List.map_cons, List.map_cons, ih]
      by_cases later : root ∈ rest.map fun component => component.1
      · rw [if_pos later, if_pos (List.mem_cons_of_mem _ later)]
      · rw [if_neg later, if_neg (fun is => (List.mem_cons.1 is).elim (fun is => same is.symm) later)]
        rfl

theorem Gathers.add {entries : List (MessageSummary × Nat)} {components : List (Nat × List MessageSummary)}
    (gathers : Gathers rootOf entries components) (entry : MessageSummary × Nat) :
    Gathers rootOf (entries ++ [entry]) (addTo (rootOf entry.2) entry.1 components) := by
  have here : (entry.1, entry.2) ∈ entries ++ [entry] := List.mem_append_right _ List.mem_cons_self
  constructor
  · rw [List.map_append]
    exact (addTo_once _ _ _).trans (gathers.once.append_right _)
  · rw [addTo_roots]
    split
    · exact gathers.roots
    · rename_i fresh
      refine List.nodup_append.2 ⟨gathers.roots, List.nodup_singleton _, ?_⟩
      rintro root known other is rfl
      exact fresh (List.mem_singleton.1 is ▸ known)
  · intro component member
    rcases mem_addTo member with old | rfl | ⟨before, _, rfl⟩
    · exact gathers.filled component old
    · exact List.cons_ne_nil _ _
    · simp
  · intro component member message listed
    rcases mem_addTo member with old | rfl | ⟨before, was, rfl⟩
    · obtain ⟨index, among, root⟩ := gathers.rooted component old message listed
      exact ⟨index, List.mem_append_left _ among, root⟩
    · rw [List.mem_singleton.1 listed]
      exact ⟨entry.2, here, rfl⟩
    · rcases List.mem_append.1 listed with old | new
      · obtain ⟨index, among, root⟩ := gathers.rooted _ was message old
        exact ⟨index, List.mem_append_left _ among, root⟩
      · rw [List.mem_singleton.1 new]
        exact ⟨entry.2, here, rfl⟩

theorem collect_spec {before : List (MessageSummary × Nat)} {parents : List Nat}
    {components : List (Nat × List MessageSummary)} (entries : List (MessageSummary × Nat))
    (grown : Forest.Grown parents size bound rootOf depth) (enough : bound ≤ fuel)
    (gathers : Gathers rootOf before components) :
    ∃ parents' components', entries.foldlM (collectMessage fuel) (parents, components) = .ok (parents', components') ∧
      Gathers rootOf (before ++ entries) components' := by
  induction entries generalizing before parents components with
  | nil => exact ⟨parents, components, rfl, by rwa [List.append_nil]⟩
  | cons entry rest ih =>
    obtain ⟨parents', found, grown'⟩ := Forest.find_spec grown enough entry.2
    obtain ⟨last, components', later, gathers'⟩ := ih grown' (gathers.add entry)
    refine ⟨last, components', ?_, by rwa [List.append_assoc] at gathers'⟩
    rw [List.foldlM_cons]
    simp only [collectMessage, found]
    exact later

end Collecting

section Indices

variable {messages : List MessageSummary} {rootOf : Nat → Nat}

theorem linked_symm {left right : MessageSummary} (linked : Linked host messages left right) :
    Linked host messages right left := by
  induction linked with
  | refl => exact .refl
  | tail _ step ih =>
    obtain ⟨one, two, sharing⟩ := step
    obtain ⟨key, inOne, inTwo⟩ := (sharing_iff host).1 sharing
    exact .head ⟨two, one, (sharing_iff host).2 ⟨key, inTwo, inOne⟩⟩ ih

/-- The chains of messages are those of their indices. -/
theorem linked_iff (distinct : messages.Nodup) (splits : Forest.Splits rootOf (Forest.Shares (seenIn host messages.zipIdx)))
    {left right : MessageSummary} {one two : Nat} (isLeft : (left, one) ∈ messages.zipIdx)
    (isRight : (right, two) ∈ messages.zipIdx) : rootOf one = rootOf two ↔ Linked host messages left right := by
  have unique : ∀ {message other index}, (message, index) ∈ messages.zipIdx → (other, index) ∈ messages.zipIdx →
      message = other := by
    intro message other index is is'
    have found := List.mem_zipIdx_iff_getElem?.1 is
    exact Option.some.inj (found.symm.trans (List.mem_zipIdx_iff_getElem?.1 is'))
  have listed : ∀ {message index}, (message, index) ∈ messages.zipIdx → message ∈ messages := by
    intro message index is
    exact List.mem_of_getElem? (List.mem_zipIdx_iff_getElem?.1 is)
  rw [splits one two]
  constructor
  · intro connected
    have chained : ∀ {first second}, EqvGen (Forest.Shares (seenIn host messages.zipIdx)) first second →
        first = second ∨ ∃ message other, (message, first) ∈ messages.zipIdx ∧ (other, second) ∈ messages.zipIdx ∧
          Linked host messages message other := by
      intro first second connected
      induction connected with
      | rel first second shares =>
        obtain ⟨key, seenFirst, seenSecond⟩ := shares
        obtain ⟨message, isFirst, inMessage⟩ := (mem_seenIn host).1 seenFirst
        obtain ⟨other, isSecond, inOther⟩ := (mem_seenIn host).1 seenSecond
        exact Or.inr ⟨message, other, isFirst, isSecond,
          .single ⟨listed isFirst, listed isSecond, (sharing_iff host).2 ⟨key, inMessage, inOther⟩⟩⟩
      | refl index => exact Or.inl rfl
      | symm first second _ ih =>
        rcases ih with rfl | ⟨message, other, isFirst, isSecond, linked⟩
        · exact Or.inl rfl
        · exact Or.inr ⟨other, message, isSecond, isFirst, linked_symm host linked⟩
      | trans first middle last _ _ ih₁ ih₂ =>
        rcases ih₁ with rfl | ⟨message, other, isFirst, isMiddle, linked⟩
        · exact ih₂
        · rcases ih₂ with rfl | ⟨other', final, isMiddle', isLast, linked'⟩
          · exact Or.inr ⟨message, other, isFirst, isMiddle, linked⟩
          · rw [← unique isMiddle isMiddle'] at linked'
            exact Or.inr ⟨message, final, isFirst, isLast, linked.trans linked'⟩
    rcases chained connected with rfl | ⟨message, other, isOne, isTwo, linked⟩
    · rw [unique isLeft isRight]
      exact .refl
    · rwa [unique isLeft isOne, unique isRight isTwo]
  · intro linked
    have same : ∀ {message index index'}, (message, index) ∈ messages.zipIdx → (message, index') ∈ messages.zipIdx →
        index = index' := by
      intro message index index' is is'
      have first := List.mem_zipIdx_iff_getElem?.1 is
      have second := List.mem_zipIdx_iff_getElem?.1 is'
      obtain ⟨small, _⟩ := List.getElem?_eq_some_iff.1 first
      exact (List.getElem?_inj small distinct).1 (first.trans second.symm)
    induction linked generalizing two with
    | refl =>
      rw [same isLeft isRight]
      exact .refl _
    | @tail middle right _ step ih =>
      obtain ⟨before, _, sharing⟩ := step
      obtain ⟨index, found⟩ := List.mem_iff_getElem?.1 before
      have isMiddle : (middle, index) ∈ messages.zipIdx := List.mem_zipIdx_iff_getElem?.2 found
      obtain ⟨key, inMiddle, inRight⟩ := (sharing_iff host).1 sharing
      exact .trans _ _ _ (ih isMiddle) (.rel _ _ ⟨key, (mem_seenIn host).2 ⟨_, isMiddle, inMiddle⟩,
        (mem_seenIn host).2 ⟨_, isRight, inRight⟩⟩)

end Indices

section Conversations

variable {messages messages' : List MessageSummary} {conversations conversations' : List CachedConversation}

/-- Each message is in one conversation, with the messages that a chain of sharing leads to. -/
structure Components (messages : List MessageSummary) (conversations : List CachedConversation) : Prop where
  once : (conversations.flatMap fun conversation => conversation.messages).Perm messages
  filled : ∀ conversation ∈ conversations, conversation.messages ≠ []
  exactlyOne : ∀ message ∈ messages,
    ∃! conversation, conversation ∈ conversations ∧ message ∈ conversation.messages
  together : ∀ left ∈ messages, ∀ right ∈ messages,
    (∃ conversation ∈ conversations, left ∈ conversation.messages ∧ right ∈ conversation.messages) ↔
      Linked host messages left right

/-- Conversations before they are sorted. -/
structure Presents (messages : List MessageSummary) (conversations : List CachedConversation) : Prop where
  made : ∀ conversation ∈ conversations, ∃ component, conversationOf host component = .ok conversation
  once : (conversations.flatMap fun conversation => conversation.messages).Perm messages
  linked : ∀ conversation ∈ conversations, ∀ left ∈ conversation.messages, ∀ right,
    right ∈ conversation.messages ↔ right ∈ messages ∧ Linked host messages left right

theorem conversationOf_spec {component : List MessageSummary} (filled : component ≠ []) :
    ∃ conversation, conversationOf host component = .ok conversation := by
  have perm := List.mergeSort_perm component fun left right => newestFirst host left right ≠ .gt
  unfold conversationOf
  cases sorted : sortBy (newestFirst host) component with
  | nil => exact absurd (List.nil_perm.1 (sorted ▸ perm)) filled
  | cons newest rest => exact ⟨_, rfl⟩

theorem conversationOf_messages {component : List MessageSummary} {conversation : CachedConversation}
    (made : conversationOf host component = .ok conversation) :
    conversation.messages = sortBy (newestFirst host) component ∧ conversation.messages ≠ [] := by
  unfold conversationOf at made
  cases sorted : sortBy (newestFirst host) component with
  | nil =>
    rw [sorted] at made
    cases made
  | cons newest rest =>
    rw [sorted] at made
    cases made
    exact ⟨rfl, List.cons_ne_nil _ _⟩

theorem sortBy_perm {α : Type} (compare : α → α → Ordering) (values : List α) : (sortBy compare values).Perm values :=
  List.mergeSort_perm _ _

theorem newestFirst_ranks (distinct : (messages.map fun message => message.id).Nodup)
    (ordered : Ranks host.localeCompare (messages.map fun message => message.id)) :
    Ranks (newestFirst host) messages := by
  have apartIds : ∀ a ∈ messages, ∀ b ∈ messages, a ≠ b → a.id ≠ b.id :=
    fun a ha b hb differ same => differ (List.inj_on_of_nodup_map distinct ha hb same)
  have isId : ∀ {a}, a ∈ messages → a.id ∈ messages.map fun message => message.id :=
    fun member => List.mem_map_of_mem member
  have before : ∀ a b : MessageSummary, newestFirst host a b = .lt ↔
      compare (dateValue host b) (dateValue host a) = .lt ∨
        dateValue host b = dateValue host a ∧ host.localeCompare a.id b.id = .lt := by
    intro a b
    rw [newestFirst, Ordering.then_eq_lt, Std.LawfulEqCmp.compare_eq_iff_eq]
  constructor
  · intro a ha b hb differ
    have swap := ordered.swap a.id (isId ha) b.id (isId hb) (apartIds a ha b hb differ)
    unfold newestFirst
    rw [swap, Ordering.swap_then]
    congr 1
    exact Std.OrientedOrd.eq_swap
  · intro a ha b hb differ
    rw [newestFirst, ne_eq, Ordering.then_eq_eq]
    exact fun both => ordered.apart a.id (isId ha) b.id (isId hb) (apartIds a ha b hb differ) both.2
  · intro a ha b hb c hc ab bc first second
    rw [before] at *
    rcases first with older | ⟨same, first⟩ <;> rcases second with older' | ⟨same', second⟩
    · exact Or.inl (Std.TransCmp.lt_trans older' older)
    · exact Or.inl (same' ▸ older)
    · exact Or.inl (same ▸ older')
    · exact Or.inr ⟨same'.trans same, ordered.trans a.id (isId ha) b.id (isId hb) c.id (isId hc)
        (apartIds a ha b hb ab) (apartIds b hb c hc bc) first second⟩

theorem linked_perm (perm : messages.Perm messages') {left right : MessageSummary}
    (linked : Linked host messages left right) : Linked host messages' left right := by
  refine ReflTransGen.mono ?_ left right linked
  exact fun _ _ step => ⟨perm.mem_iff.1 step.1, perm.mem_iff.1 step.2.1, step.2.2⟩

theorem Presents.eq_of_mem (presents : Presents host messages conversations) (distinct : messages.Nodup)
    {one two : CachedConversation} (inOne : one ∈ conversations) (inTwo : two ∈ conversations)
    {message : MessageSummary} (listed : message ∈ one.messages) (listed' : message ∈ two.messages) : one = two := by
  have parts := (List.nodup_flatMap.1 (presents.once.nodup_iff.2 distinct)).2
  have : Std.Symm (Function.onFun List.Disjoint fun conversation : CachedConversation => conversation.messages) :=
    ⟨fun _ _ disjoint _ one two => disjoint two one⟩
  by_contra differ
  exact parts.forall inOne inTwo differ listed listed'

theorem Presents.nodup (presents : Presents host messages conversations) (distinct : messages.Nodup) :
    conversations.Nodup := by
  have parts := (List.nodup_flatMap.1 (presents.once.nodup_iff.2 distinct)).2
  refine parts.imp_of_mem fun {one two} inOne _ disjoint same => ?_
  subst same
  obtain ⟨component, made⟩ := presents.made one inOne
  obtain ⟨message, listed⟩ := List.exists_mem_of_ne_nil _ (conversationOf_messages host made).2
  exact disjoint listed listed

/-- The conversations do not depend on the order of the messages. -/
theorem Presents.subset (presents : Presents host messages conversations) (presents' : Presents host messages' conversations')
    (distinct : messages.Nodup) (ranks : Ranks (newestFirst host) messages) (perm : messages.Perm messages') :
    ∀ conversation ∈ conversations, conversation ∈ conversations' := by
  intro conversation member
  obtain ⟨component, made⟩ := presents.made conversation member
  obtain ⟨sorted, filled⟩ := conversationOf_messages host made
  obtain ⟨message, listed⟩ := List.exists_mem_of_ne_nil _ filled
  have inMessages := presents.once.mem_iff.1 (List.mem_flatMap.2 ⟨conversation, member, listed⟩)
  obtain ⟨conversation', member', listed'⟩ :=
    List.mem_flatMap.1 (presents'.once.mem_iff.2 (perm.mem_iff.1 inMessages))
  obtain ⟨component', made'⟩ := presents'.made conversation' member'
  obtain ⟨sorted', _⟩ := conversationOf_messages host made'
  have single : conversation.messages.Nodup :=
    (List.nodup_flatMap.1 (presents.once.nodup_iff.2 distinct)).1 conversation member
  have single' : conversation'.messages.Nodup :=
    (List.nodup_flatMap.1 (presents'.once.nodup_iff.2 (perm.nodup_iff.1 distinct))).1 conversation' member'
  have same : conversation.messages.Perm conversation'.messages := by
    rw [List.perm_ext_iff_of_nodup single single']
    intro other
    rw [presents.linked conversation member message listed, presents'.linked conversation' member' message listed',
      perm.mem_iff]
    exact and_congr_right fun _ => ⟨linked_perm host perm, linked_perm host perm.symm⟩
  rw [sorted, sorted'] at same
  have components : component.Perm component' :=
    (sortBy_perm _ _).symm.trans (same.trans (sortBy_perm _ _))
  have within : ∀ other ∈ component, other ∈ messages := by
    intro other inComponent
    refine presents.once.mem_iff.1 (List.mem_flatMap.2 ⟨conversation, member, ?_⟩)
    rw [sorted]
    exact (sortBy_perm _ _).mem_iff.2 inComponent
  have ordered := ranks.of_subset within
  have equal : sortBy (newestFirst host) component = sortBy (newestFirst host) component' :=
    ordered.mergeSort_perm_eq ((sortBy_perm _ _).nodup_iff.1 (sorted ▸ single)) components
  have alike : conversationOf host component = conversationOf host component' := by
    unfold conversationOf
    rw [equal]
  rw [alike, made'] at made
  cases made
  exact member'

theorem Presents.ranks (presents : Presents host messages conversations) (distinct : messages.Nodup)
    (ranks : Ranks (newestFirst host) messages) : Ranks (newestConversationFirst host) conversations := by
  have inMessages : ∀ conversation ∈ conversations, ∀ message ∈ conversation.messages, message ∈ messages :=
    fun conversation member message listed =>
      presents.once.mem_iff.1 (List.mem_flatMap.2 ⟨conversation, member, listed⟩)
  refine ranks.along (fun conversation message => conversation.messages.head? = some message) ?_ ?_
  · intro conversation member
    obtain ⟨component, made⟩ := presents.made conversation member
    cases sorted : conversation.messages with
    | nil => exact absurd sorted (conversationOf_messages host made).2
    | cons newest rest =>
      exact ⟨newest, inMessages conversation member newest (sorted ▸ List.mem_cons_self), rfl⟩
  · intro one inOne two inTwo differ newest newest' isNewest isNewest'
    have listed := List.mem_of_head? isNewest
    have listed' := List.mem_of_head? isNewest'
    have apart : newest ≠ newest' := by
      rintro rfl
      exact differ (presents.eq_of_mem host distinct inOne inTwo listed listed')
    refine ⟨apart, ?_⟩
    have decided := ranks.apart newest (inMessages one inOne newest listed) newest'
      (inMessages two inTwo newest' listed') apart
    obtain ⟨rest, isOne⟩ := List.head?_eq_some_iff.1 isNewest
    obtain ⟨rest', isTwo⟩ := List.head?_eq_some_iff.1 isNewest'
    unfold newestConversationFirst
    rw [isOne, isTwo]
    cases found : newestFirst host newest newest' with
    | lt => simp only [found, Ordering.then]
    | eq => exact absurd found decided
    | gt => simp only [found, Ordering.then]

/-- What two runs make of the same messages, in any order. -/
theorem Presents.unique (presents : Presents host messages conversations)
    (presents' : Presents host messages' conversations') (distinct : messages.Nodup)
    (ranks : Ranks (newestFirst host) messages) (ranks' : Ranks (newestFirst host) messages')
    (perm : messages.Perm messages') :
    sortBy (newestConversationFirst host) conversations = sortBy (newestConversationFirst host) conversations' := by
  refine (presents.ranks host distinct ranks).mergeSort_perm_eq (presents.nodup host distinct) ?_
  rw [List.perm_ext_iff_of_nodup (presents.nodup host distinct)
    (presents'.nodup host (perm.nodup_iff.1 distinct))]
  exact fun conversation => ⟨presents.subset host presents' distinct ranks perm conversation,
    presents'.subset host presents (perm.nodup_iff.1 distinct) ranks' perm.symm conversation⟩

end Conversations

section Runs

variable {messages messages' : List MessageSummary}

/-- The loops come to an end, with the grouping, once they are given enough passes. -/
def Returns (messages : List MessageSummary) (grouping : CachedConversationGrouping) : Prop :=
  ∃ enough, ∀ fuel, enough ≤ fuel → groupCachedConversations host fuel messages = .ok grouping

theorem groupCachedConversations_presents {fuel : Nat} (few : messages.length ≤ cachedConversationMessageLimit)
    (distinct : messages.Nodup) (enough : (seenIn host messages.zipIdx).length ≤ fuel) :
    ∃ conversations, groupCachedConversations host fuel messages =
        .ok ⟨sortBy (newestConversationFirst host) conversations, false⟩ ∧ Presents host messages conversations := by
  have inside : ∀ entry ∈ messages.zipIdx, entry.2 < messages.length :=
    fun entry member => List.snd_lt_of_mem_zipIdx member
  obtain ⟨linking, joined, rootOf, depth, grown, traced, _⟩ :=
    joinMessages_spec host messages.zipIdx inside (follows_nil messages.length)
      (show _ ≤ fuel by simpa using enough)
  rw [List.nil_append] at grown traced
  obtain ⟨parents, components, collected, gathers⟩ :=
    collect_spec messages.zipIdx grown enough (gathers_nil rootOf)
  rw [List.nil_append] at gathers
  have each : ∀ component ∈ components, ∃ conversation, conversationOf host component.2 = .ok conversation ∧ True := by
    intro component member
    obtain ⟨conversation, is⟩ := conversationOf_spec host (gathers.filled component member)
    exact ⟨conversation, is, trivial⟩
  obtain ⟨conversations, made, -⟩ := Fallible.exists_mapM_ok.2 each
  have cover : (components.flatMap fun component => component.2).Perm messages := by
    have listed : (messages.zipIdx.map fun entry => entry.1) = messages := List.zipIdx_map_fst 0 messages
    exact listed ▸ gathers.once
  refine ⟨conversations, ?_, ?_, ?_, ?_⟩
  · unfold groupCachedConversations
    rw [if_neg (Nat.not_lt.2 few)]
    simp only [joined, collected, made, bind, Except.bind, pure, Except.pure]
  · intro conversation member
    obtain ⟨component, _, is⟩ := Fallible.exists_of_mem_mapM made member
    exact ⟨component.2, is⟩
  · refine List.Perm.trans ?_ cover
    have pairs := Fallible.mapM_eq_ok made
    clear made collected gathers cover each
    induction pairs with
    | nil => exact .refl _
    | cons is _ ih =>
      rw [List.flatMap_cons, List.flatMap_cons]
      refine .append ?_ ih
      rw [(conversationOf_messages host is).1]
      exact sortBy_perm _ _
  · intro conversation member left inLeft right
    obtain ⟨component, listed, is⟩ := Fallible.exists_of_mem_mapM made member
    have same : ∀ message, message ∈ conversation.messages ↔ message ∈ component.2 := by
      intro message
      rw [(conversationOf_messages host is).1]
      exact (sortBy_perm _ _).mem_iff
    obtain ⟨index, among, root⟩ := gathers.rooted component listed left ((same left).1 inLeft)
    rw [same]
    constructor
    · intro inRight
      obtain ⟨index', among', root'⟩ := gathers.rooted component listed right inRight
      exact ⟨cover.mem_iff.1 (List.mem_flatMap.2 ⟨component, listed, inRight⟩),
        (linked_iff host distinct traced.splits among among').1 (root.trans root'.symm)⟩
    · rintro ⟨inMessages, linked⟩
      obtain ⟨component', listed', inRight⟩ := List.mem_flatMap.1 (cover.mem_iff.2 inMessages)
      obtain ⟨index', among', root'⟩ := gathers.rooted component' listed' right inRight
      have roots := (linked_iff host distinct traced.splits among among').2 linked
      have equal : component = component' :=
        List.inj_on_of_nodup_map gathers.roots listed listed' (root.symm.trans (roots.trans root'))
      rwa [equal]

theorem Presents.components {conversations : List CachedConversation} (presents : Presents host messages conversations)
    (distinct : messages.Nodup) :
    Components host messages (sortBy (newestConversationFirst host) conversations) := by
  have perm := sortBy_perm (newestConversationFirst host) conversations
  have has : ∀ message ∈ messages, ∃ conversation ∈ conversations, message ∈ conversation.messages :=
    fun message member => List.mem_flatMap.1 (presents.once.mem_iff.2 member)
  constructor
  · exact (perm.flatMap_right _).trans presents.once
  · intro conversation member
    obtain ⟨component, made⟩ := presents.made conversation (perm.mem_iff.1 member)
    exact (conversationOf_messages host made).2
  · intro message member
    obtain ⟨conversation, among, listed⟩ := has message member
    refine ⟨conversation, ⟨perm.mem_iff.2 among, listed⟩, ?_⟩
    rintro other ⟨among', listed'⟩
    exact presents.eq_of_mem host distinct (perm.mem_iff.1 among') among listed' listed
  · intro left inLeft right inRight
    constructor
    · rintro ⟨conversation, among, one, two⟩
      exact ((presents.linked conversation (perm.mem_iff.1 among) left one right).1 two).2
    · intro linked
      obtain ⟨conversation, among, one⟩ := has left inLeft
      exact ⟨conversation, perm.mem_iff.2 among, one,
        (presents.linked conversation among left one right).2 ⟨inRight, linked⟩⟩

/-- Grouping ends, with the connected components of the messages, and the order of the messages does not matter. -/
theorem groupCachedConversations_components (few : messages.length ≤ cachedConversationMessageLimit)
    (distinct : (messages.map fun message => message.id).Nodup)
    (ordered : Ranks host.localeCompare (messages.map fun message => message.id)) :
    ∃ conversations, Components host messages conversations ∧
      ∀ messages', messages.Perm messages' → Returns host messages' ⟨conversations, false⟩ := by
  have single : messages.Nodup := distinct.of_map
  have ranks := newestFirst_ranks host distinct ordered
  obtain ⟨conversations, _, presents⟩ :=
    groupCachedConversations_presents host few single (Nat.le_refl _)
  refine ⟨sortBy (newestConversationFirst host) conversations, presents.components host single, fun messages' perm => ?_⟩
  have few' : messages'.length ≤ cachedConversationMessageLimit := perm.length_eq ▸ few
  have ranks' := ranks.of_subset fun a (member : a ∈ messages') => perm.mem_iff.2 member
  refine ⟨(seenIn host messages'.zipIdx).length, fun fuel enough => ?_⟩
  obtain ⟨conversations', returned, presents'⟩ :=
    groupCachedConversations_presents host few' (perm.nodup_iff.1 single) enough
  rw [returned, presents.unique host presents' single ranks ranks' perm]

section Witness

/-- What the host does on texts of the first block of letters. -/
def plainHost : Host where
  normalize text := text
  lower text := text.map asciiLower
  localeCompare left right := compare left right
  parseDate text := if text = ofString "2026-03-01T09:00:00.000Z" then some 1772355600000 else none

def planMessage : MessageSummary where
  id := ofString "a"
  accountId := ofString "home"
  folderPath := ofString "INBOX"
  uid := 1
  uidValidity := none
  messageId := some (ofString "<plan@host>")
  inReplyTo := none
  references := none
  «from» := []
  «to» := []
  cc := []
  subject := ofString "Plan"
  date := ofString "2026-03-01T09:00:00.000Z"
  preview := []
  unread := true
  starred := false
  hasAttachments := false
  size := 100

def answerMessage : MessageSummary :=
  { planMessage with
    id := ofString "b", uid := 2, subject := ofString "Lunch", inReplyTo := some (ofString "<plan@host>"),
    messageId := none }

def lunchMessage : MessageSummary :=
  { planMessage with id := ofString "c", uid := 3, subject := ofString "Re: lunch", date := [], messageId := none }

theorem groupCachedConversations_components_three :
    ∃ conversations, Components plainHost [planMessage, answerMessage, lunchMessage] conversations ∧
      ∀ messages', [planMessage, answerMessage, lunchMessage].Perm messages' →
        Returns plainHost messages' ⟨conversations, false⟩ :=
  groupCachedConversations_components plainHost (by decide) (by decide)
    ⟨by decide, by decide, by decide⟩

end Witness

end Runs

end CachedMail
