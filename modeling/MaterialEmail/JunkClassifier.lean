import MaterialEmail.Library.Arrangement
import MaterialEmail.Library.Keyed
import MaterialEmail.MailService.Model
import MaterialEmail.MessageFilters

/-! The junk classifier's model: how often each token was seen in junk and in good messages. Training adds one to the
counts of a message's tokens, untraining takes one away. -/
namespace JunkClassifier

open JsString
open MailService (Address)
open MessageFilters (JunkLabel)

def modelTokenLimit : Nat := 20000
def tokensPerMessageLimit : Nat := 200
def tokenLengthMin : Nat := 3
def tokenLengthMax : Nat := 32
def sampleCharacterLimit : Nat := 20000

/-- `Number.MAX_SAFE_INTEGER`. -/
def maxSafeInteger : Nat := 2 ^ 53 - 1

/-- A sum of two safe integers, as it is rounded. -/
def rounded (sum : Nat) : Nat :=
  if sum ≤ 2 ^ 53 ∨ sum % 2 = 0 then sum else if sum % 4 = 1 then sum - 1 else sum + 1

/-- What the host knows of letters and numbers. -/
structure Host where
  /-- `normalize("NFKC")`. -/
  normalize : JsString → JsString
  /-- `toLocaleLowerCase("en-US")`. -/
  lower : JsString → JsString
  localeCompare : JsString → JsString → Ordering
  /-- `/[\p{Letter}\p{Number}]/u`, of the units of a code point. -/
  isLetterOrNumber : JsString → Bool

/-- A host that knows the letters and digits of the basic alphabet. -/
def Host.plain : Host where
  normalize := id
  lower := List.map asciiLower
  localeCompare := List.compareLex compare
  isLetterOrNumber := fun point => point.all fun unit => isAlphanumeric unit

structure JunkTokenCounts where
  junk : Nat
  good : Nat
  deriving DecidableEq

/-- Tokens with their counts, in the order in which they came in. -/
abbrev Tokens := List (JsString × JunkTokenCounts)

structure JunkModel where
  junkMessageCount : Nat
  goodMessageCount : Nat
  tokens : Tokens
  deriving DecidableEq

def emptyJunkModel : JunkModel := ⟨0, 0, []⟩

structure JunkTrainingSample where
  subject : JsString
  «from» : List Address
  body : JsString

section Tokenizing

variable (host : Host)

/-- `[\p{Letter}\p{Number}$!£€¥%'’-]`. -/
def inWord (point : JsString) : Bool :=
  host.isLetterOrNumber point || point ∈ [[36], [33], [0xA3], [0x20AC], [0xA5], [37], [39], [0x2019], [45]]

/-- The longest parts of a text of which every code point is in a word. -/
def wordsOf (text : JsString) : List JsString :=
  (((characters text).splitOnP fun point => !inWord host point).filter (· ≠ [])).map List.flatten

def tokenize (source : JsString) (origin : String) : List JsString :=
  let bounded := host.lower ((host.normalize source).take sampleCharacterLimit)
  let values := (wordsOf host bounded).filter fun value => tokenLengthMin ≤ value.length && value.length ≤ tokenLengthMax
  (values.map fun value => ofString origin ++ 58 :: value).take tokensPerMessageLimit

def domainToken (address : JsString) : List JsString :=
  match (address.splitOn 64)[1]? with
  | none => []
  | some domain => if domain = [] then [] else [ofString "domain:" ++ (host.lower domain).take tokenLengthMax]

def addressTokens (addresses : List Address) : List JsString :=
  (addresses.take 50).flatMap fun entry =>
    domainToken host entry.address ++ tokenize host (entry.name ++ 32 :: entry.address) "from"

def junkTokens (sample : JunkTrainingSample) : List JsString :=
  (addressTokens host sample.from ++ tokenize host sample.subject "subject" ++
    tokenize host sample.body "body").eraseDups.take tokensPerMessageLimit

end Tokenizing

section Training

variable (host : Host)

def total (counts : JunkTokenCounts) : Nat := rounded (counts.junk + counts.good)

/-- The tokens that were seen most come first. -/
def byTotal (left right : JsString × JunkTokenCounts) : Ordering :=
  (compare (total right.2) (total left.2)).then (host.localeCompare left.1 right.1)

def pruneTokens (tokens : Tokens) : Tokens :=
  if tokens.length ≤ modelTokenLimit then tokens
  else (tokens.mergeSort fun left right => byTotal host left right ≠ .gt).take modelTokenLimit

def countsOf (tokens : Tokens) (token : JsString) : Option JunkTokenCounts := (Keyed.get Prod.fst token tokens).map (·.2)

/-- The counts of a token that is seen once more. -/
def raised (label : JunkLabel) (existing : Option JunkTokenCounts) : JunkTokenCounts :=
  let counts := existing.getD ⟨0, 0⟩
  match label with
  | .junk => ⟨min (counts.junk + 1) maxSafeInteger, counts.good⟩
  | .good => ⟨counts.junk, min (counts.good + 1) maxSafeInteger⟩

/-- The counts of a token that was seen once less, unless nothing is left of them. -/
def lowered (label : JunkLabel) (counts : JunkTokenCounts) : Option JunkTokenCounts :=
  let next : JunkTokenCounts := match label with
    | .junk => ⟨counts.junk - 1, counts.good⟩
    | .good => ⟨counts.junk, counts.good - 1⟩
  if next.junk = 0 ∧ next.good = 0 then none else some next

def trainToken (label : JunkLabel) (tokens : Tokens) (token : JsString) : Tokens :=
  Keyed.put Prod.fst (token, raised label (countsOf tokens token)) tokens

def untrainToken (label : JunkLabel) (tokens : Tokens) (token : JsString) : Tokens :=
  match countsOf tokens token with
  | none => tokens
  | some existing =>
    match lowered label existing with
    | none => Keyed.without Prod.fst token tokens
    | some next => Keyed.put Prod.fst (token, next) tokens

def JunkLabel.one (label counted : JunkLabel) : Nat := if label = counted then 1 else 0

/-- The tokens of a model that has seen a sample once more, before they are pruned. -/
def trainedTokens (tokens : Tokens) (sample : JunkTrainingSample) (label : JunkLabel) : Tokens :=
  (junkTokens host sample).foldl (trainToken label) tokens

def trainJunkModel (model : JunkModel) (sample : JunkTrainingSample) (label : JunkLabel) : JunkModel where
  junkMessageCount := rounded (model.junkMessageCount + JunkLabel.one label .junk)
  goodMessageCount := rounded (model.goodMessageCount + JunkLabel.one label .good)
  tokens := pruneTokens host (trainedTokens host model.tokens sample label)

def untrainJunkModel (model : JunkModel) (sample : JunkTrainingSample) (label : JunkLabel) : JunkModel where
  junkMessageCount := model.junkMessageCount - JunkLabel.one label .junk
  goodMessageCount := model.goodMessageCount - JunkLabel.one label .good
  tokens := (junkTokens host sample).foldl (untrainToken label) model.tokens

/-- `junkModelSchema`. -/
def junkModelSchema (model : JunkModel) : Bool :=
  model.junkMessageCount ≤ maxSafeInteger && model.goodMessageCount ≤ maxSafeInteger &&
    model.tokens.length ≤ modelTokenLimit &&
    model.tokens.all fun (token, counts) =>
      1 ≤ token.length && token.length ≤ 128 && counts.junk ≤ maxSafeInteger && counts.good ≤ maxSafeInteger

end Training

section Histories

variable (host : Host)

inductive Step where
  | train (sample : JunkTrainingSample) (label : JunkLabel)
  | untrain (sample : JunkTrainingSample) (label : JunkLabel)

def perform (model : JunkModel) : Step → JunkModel
  | .train sample label => trainJunkModel host model sample label
  | .untrain sample label => untrainJunkModel host model sample label

def run (steps : List Step) : JunkModel := steps.foldl (perform host) emptyJunkModel

def Step.isTraining : Step → Bool
  | .train _ _ => true
  | .untrain _ _ => false

/-- The number of trainings. -/
def trainings (steps : List Step) : Nat := steps.countP Step.isTraining

end Histories

section Tokens

variable {host : Host} {label : JunkLabel}

theorem tokenize_length {source token : JsString} {origin : String} (short : (ofString origin).length ≤ 8)
    (member : token ∈ tokenize host source origin) : 1 ≤ token.length ∧ token.length ≤ 128 := by
  obtain ⟨value, isValue, rfl⟩ := List.mem_map.1 (List.mem_of_mem_take member)
  have fits := (List.mem_filter.1 isValue).2
  obtain ⟨-, fits⟩ := Bool.and_eq_true_iff.1 fits
  have long : value.length ≤ 32 := of_decide_eq_true fits
  simp only [List.length_append, List.length_cons]
  omega

theorem domainToken_length {address token : JsString} (member : token ∈ domainToken host address) :
    1 ≤ token.length ∧ token.length ≤ 128 := by
  unfold domainToken at member
  split at member
  · cases member
  · split at member
    · cases member
    · cases List.mem_singleton.1 member
      have short := List.length_take_le tokenLengthMax (host.lower ‹JsString›)
      have front : (ofString "domain:").length = 7 := by decide
      simp only [tokenLengthMax] at short
      rw [List.length_append, front]
      simp only [tokenLengthMax]
      omega

theorem junkTokens_length {sample : JunkTrainingSample} {token : JsString} (member : token ∈ junkTokens host sample) :
    1 ≤ token.length ∧ token.length ≤ 128 := by
  have listed := List.mem_eraseDups.1 (List.mem_of_mem_take member)
  rcases List.mem_append.1 listed with front | inBody
  · rcases List.mem_append.1 front with inFrom | inSubject
    · obtain ⟨entry, -, inEntry⟩ := List.mem_flatMap.1 inFrom
      rcases List.mem_append.1 inEntry with isDomain | isName
      · exact domainToken_length isDomain
      · exact tokenize_length (by decide) isName
    · exact tokenize_length (by decide) inSubject
  · exact tokenize_length (by decide) inBody

theorem junkTokens_nodup (sample : JunkTrainingSample) : (junkTokens host sample).Nodup :=
  (Arrangement.nodup_eraseDups _).sublist (List.take_sublist _ _)

end Tokens

section Counting

variable {label : JunkLabel} {tokens : Tokens}

theorem countsOf_put (token wanted : JsString) (counts : JunkTokenCounts) :
    countsOf (Keyed.put Prod.fst (token, counts) tokens) wanted =
      if wanted = token then some counts else countsOf tokens wanted := by
  rw [countsOf, Keyed.get_put]
  by_cases same : wanted = token
  · simp [same]
  · simp [same, Ne.symm same, countsOf]

theorem countsOf_without (token wanted : JsString) : countsOf (Keyed.without Prod.fst token tokens) wanted =
    if wanted = token then none else countsOf tokens wanted := by
  rw [countsOf, Keyed.get_without]
  split <;> rfl

theorem countsOf_trainToken (token wanted : JsString) : countsOf (trainToken label tokens token) wanted =
    if wanted = token then some (raised label (countsOf tokens wanted)) else countsOf tokens wanted := by
  rw [trainToken, countsOf_put]
  by_cases same : wanted = token
  · rw [if_pos same, if_pos same, same]
  · rw [if_neg same, if_neg same]

theorem countsOf_untrainToken (token wanted : JsString) : countsOf (untrainToken label tokens token) wanted =
    if wanted = token then (countsOf tokens wanted).bind (lowered label) else countsOf tokens wanted := by
  by_cases same : wanted = token
  · subst same
    rw [if_pos rfl, untrainToken]
    cases found : countsOf tokens wanted with
    | none => exact found
    | some existing =>
      cases less : lowered label existing with
      | none => simp [less, countsOf_without]
      | some next => simp [less, countsOf_put]
  · rw [if_neg same, untrainToken]
    split
    · rfl
    · split
      · rw [countsOf_without, if_neg same]
      · rw [countsOf_put, if_neg same]

/-- A walk along different keys that changes what is found under each of them changes it once. -/
theorem foldl_countsOf (walk : Tokens → JsString → Tokens) (change : Option JunkTokenCounts → Option JunkTokenCounts)
    (one : ∀ tokens token wanted, countsOf (walk tokens token) wanted =
      if wanted = token then change (countsOf tokens wanted) else countsOf tokens wanted)
    {keys : List JsString} (distinct : keys.Nodup) (tokens : Tokens) (wanted : JsString) :
    countsOf (keys.foldl walk tokens) wanted =
      if wanted ∈ keys then change (countsOf tokens wanted) else countsOf tokens wanted := by
  induction keys generalizing tokens with
  | nil => simp
  | cons key rest ih =>
    obtain ⟨absent, distinct⟩ := List.nodup_cons.1 distinct
    rw [List.foldl_cons, ih distinct, one]
    by_cases here : wanted = key
    · subst here
      simp [absent]
    · simp [here]

end Counting

section Undoing

variable {host : Host} {label : JunkLabel}

theorem countsOf_trained (tokens : Tokens) (sample : JunkTrainingSample) (wanted : JsString) :
    countsOf (trainedTokens host tokens sample label) wanted =
      if wanted ∈ junkTokens host sample then some (raised label (countsOf tokens wanted)) else countsOf tokens wanted :=
  foldl_countsOf (trainToken label) (fun found => some (raised label found)) (fun _ => countsOf_trainToken)
    (junkTokens_nodup sample) tokens wanted

theorem countsOf_untrained (tokens : Tokens) (sample : JunkTrainingSample) (wanted : JsString) :
    countsOf ((junkTokens host sample).foldl (untrainToken label) tokens) wanted =
      if wanted ∈ junkTokens host sample then (countsOf tokens wanted).bind (lowered label) else countsOf tokens wanted :=
  foldl_countsOf (untrainToken label) (fun found => found.bind (lowered label)) (fun _ => countsOf_untrainToken)
    (junkTokens_nodup sample) tokens wanted

/-- Counts that a training can add to and an untraining can take back. -/
structure Countable (counts : JunkTokenCounts) : Prop where
  seen : ¬(counts.junk = 0 ∧ counts.good = 0)
  junk : counts.junk < maxSafeInteger
  good : counts.good < maxSafeInteger

theorem lowered_raised {found : Option JunkTokenCounts} (countable : ∀ counts ∈ found, Countable counts) :
    lowered label (raised label found) = found := by
  cases found with
  | none => cases label <;> rfl
  | some counts =>
    have ⟨seen, junk, good⟩ := countable counts rfl
    have moreJunk : min (counts.junk + 1) maxSafeInteger = counts.junk + 1 := Nat.min_eq_left junk
    have moreGood : min (counts.good + 1) maxSafeInteger = counts.good + 1 := Nat.min_eq_left good
    cases label <;> simp [lowered, raised, moreJunk, moreGood] <;> omega

/-- The same messages were counted, and the same is found under each token. -/
structure SameModel (one two : JunkModel) : Prop where
  junk : one.junkMessageCount = two.junkMessageCount
  good : one.goodMessageCount = two.goodMessageCount
  tokens : ∀ token, countsOf one.tokens token = countsOf two.tokens token

theorem rounded_of_le {sum : Nat} (small : sum ≤ 2 ^ 53) : rounded sum = sum := if_pos (Or.inl small)

theorem untrain_train {model : JunkModel} {sample : JunkTrainingSample}
    (room : (trainedTokens host model.tokens sample label).length ≤ modelTokenLimit)
    (countable : ∀ token counts, countsOf model.tokens token = some counts → Countable counts)
    (junk : model.junkMessageCount < 2 ^ 53) (good : model.goodMessageCount < 2 ^ 53) :
    SameModel (untrainJunkModel host (trainJunkModel host model sample label) sample label) model := by
  constructor
  case junk =>
    simp only [untrainJunkModel, trainJunkModel]
    rw [rounded_of_le (by unfold JunkLabel.one; split <;> omega)]
    omega
  case good =>
    simp only [untrainJunkModel, trainJunkModel]
    rw [rounded_of_le (by unfold JunkLabel.one; split <;> omega)]
    omega
  case tokens =>
    intro token
    simp only [untrainJunkModel, trainJunkModel, pruneTokens, if_pos room]
    rw [countsOf_untrained, countsOf_trained]
    split
    · rw [Option.bind_some]
      exact lowered_raised fun counts found => countable token counts found
    · rfl

end Undoing

section Reachable

variable {host : Host} {tokens : Tokens} {label : JunkLabel} {sample : JunkTrainingSample}

theorem countsOf_of_mem (distinct : (tokens.map Prod.fst).Nodup) {token : JsString} {counts : JunkTokenCounts}
    (member : (token, counts) ∈ tokens) : countsOf tokens token = some counts :=
  congrArg (Option.map fun entry : JsString × JunkTokenCounts => entry.2) (Keyed.get_of_mem distinct member)

theorem mem_of_countsOf {token : JsString} {counts : JunkTokenCounts} (found : countsOf tokens token = some counts) :
    (token, counts) ∈ tokens := by
  obtain ⟨⟨known, same⟩, isFound, rfl⟩ := Option.map_eq_some_iff.1 found
  obtain ⟨member, rfl⟩ := Keyed.get_eq_some isFound
  exact member

theorem prune_subset : ∀ entry ∈ pruneTokens host tokens, entry ∈ tokens := by
  unfold pruneTokens
  split
  · exact fun entry member => member
  · exact fun entry member => List.mem_mergeSort.1 (List.mem_of_mem_take member)

theorem prune_distinct (distinct : (tokens.map Prod.fst).Nodup) : ((pruneTokens host tokens).map Prod.fst).Nodup := by
  unfold pruneTokens
  split
  · exact distinct
  · refine List.Nodup.sublist ((List.take_sublist _ _).map _) ?_
    exact ((List.mergeSort_perm tokens _).map Prod.fst).nodup_iff.2 distinct

theorem prune_length : (pruneTokens host tokens).length ≤ modelTokenLimit := by
  unfold pruneTokens
  split
  · assumption
  · exact List.length_take_le _ _

theorem trained_distinct (distinct : (tokens.map Prod.fst).Nodup) :
    ((trainedTokens host tokens sample label).map Prod.fst).Nodup := by
  unfold trainedTokens
  induction junkTokens host sample generalizing tokens with
  | nil => exact distinct
  | cons token rest ih => exact ih (Keyed.nodup_put distinct)

theorem untrained_distinct (distinct : (tokens.map Prod.fst).Nodup) :
    (((junkTokens host sample).foldl (untrainToken label) tokens).map Prod.fst).Nodup := by
  induction junkTokens host sample generalizing tokens with
  | nil => exact distinct
  | cons token rest ih =>
    refine ih ?_
    unfold untrainToken
    split
    · exact distinct
    · split
      · exact Keyed.nodup_without distinct
      · exact Keyed.nodup_put distinct

/-- What is found after a training was found before it, or was raised. -/
theorem countsOf_train {model : JunkModel} (distinct : (model.tokens.map Prod.fst).Nodup) {token : JsString}
    {counts : JunkTokenCounts} (found : countsOf (trainJunkModel host model sample label).tokens token = some counts) :
    counts = raised label (countsOf model.tokens token) ∧ token ∈ junkTokens host sample ∨
      countsOf model.tokens token = some counts := by
  have trained := countsOf_of_mem (trained_distinct distinct) (prune_subset _ (mem_of_countsOf found))
  rw [countsOf_trained] at trained
  split at trained
  · rename_i isToken
    exact Or.inl ⟨(Option.some.inj trained).symm, isToken⟩
  · exact Or.inr trained

theorem rounded_one (label : JunkLabel) {count : Nat} (bounded : count ≤ 2 ^ 53) (counted : JunkLabel) :
    rounded (count + JunkLabel.one label counted) ≤ 2 ^ 53 ∧
      rounded (count + JunkLabel.one label counted) ≤ count + JunkLabel.one label counted ∧
      min (count + JunkLabel.one label counted) (2 ^ 53) ≤ rounded (count + JunkLabel.one label counted) := by
  have few : JunkLabel.one label counted ≤ 1 := by
    unfold JunkLabel.one
    split <;> omega
  unfold rounded
  split
  · omega
  · split <;> omega

/-- A model after a number of trainings, and whatever was taken back of them. -/
structure Sound (model : JunkModel) (seen : Nat) : Prop where
  distinct : (model.tokens.map Prod.fst).Nodup
  junk : model.junkMessageCount ≤ min seen (2 ^ 53)
  good : model.goodMessageCount ≤ min seen (2 ^ 53)
  counts : ∀ token counts, countsOf model.tokens token = some counts →
    ¬(counts.junk = 0 ∧ counts.good = 0) ∧ counts.junk ≤ seen ∧ counts.good ≤ seen

theorem raised_le {seen : Nat} {found : Option JunkTokenCounts}
    (few : ∀ counts ∈ found, counts.junk ≤ seen ∧ counts.good ≤ seen) :
    ¬((raised label found).junk = 0 ∧ (raised label found).good = 0) ∧ (raised label found).junk ≤ seen + 1 ∧
      (raised label found).good ≤ seen + 1 := by
  have some : 0 < maxSafeInteger := by decide
  cases found with
  | none => cases label <;> simp only [raised, Option.getD_none] <;> omega
  | some counts =>
    have less := few counts rfl
    cases label <;> simp only [raised, Option.getD_some] <;> omega

theorem Sound.train {model : JunkModel} {seen : Nat} (sound : Sound model seen) :
    Sound (trainJunkModel host model sample label) (seen + 1) := by
  have one (counted : JunkLabel) : JunkLabel.one label counted ≤ 1 := by
    unfold JunkLabel.one
    split <;> omega
  constructor
  case distinct => exact prune_distinct (trained_distinct sound.distinct)
  case junk =>
    have sum := rounded_one label (le_trans sound.junk (Nat.min_le_right _ _)) .junk
    have before := sound.junk
    have more := one .junk
    simp only [trainJunkModel]
    omega
  case good =>
    have sum := rounded_one label (le_trans sound.good (Nat.min_le_right _ _)) .good
    have before := sound.good
    have more := one .good
    simp only [trainJunkModel]
    omega
  case counts =>
    intro token counts found
    rcases countsOf_train sound.distinct found with ⟨rfl, -⟩ | before
    · exact raised_le fun counts known => (sound.counts token counts known).2
    · obtain ⟨nonzero, junk, good⟩ := sound.counts token counts before
      exact ⟨nonzero, by omega, by omega⟩

theorem lowered_le {counts less : JunkTokenCounts} (isLess : lowered label counts = some less) :
    ¬(less.junk = 0 ∧ less.good = 0) ∧ less.junk ≤ counts.junk ∧ less.good ≤ counts.good := by
  unfold lowered at isLess
  cases label <;> simp only at isLess <;> split at isLess <;> cases isLess <;> rename_i nonzero <;>
    exact ⟨nonzero, by simp, by simp⟩

theorem Sound.untrain {model : JunkModel} {seen : Nat} (sound : Sound model seen) :
    Sound (untrainJunkModel host model sample label) seen := by
  constructor
  case distinct => exact untrained_distinct sound.distinct
  case junk => exact le_trans (Nat.sub_le _ _) sound.junk
  case good => exact le_trans (Nat.sub_le _ _) sound.good
  case counts =>
    intro token counts found
    simp only [untrainJunkModel, countsOf_untrained] at found
    split at found
    · obtain ⟨before, known, isLess⟩ := Option.bind_eq_some_iff.1 found
      obtain ⟨-, junk, good⟩ := sound.counts token before known
      obtain ⟨nonzero, lessJunk, lessGood⟩ := lowered_le isLess
      exact ⟨nonzero, by omega, by omega⟩
    · exact sound.counts token counts found

theorem run_sound (host : Host) (steps : List Step) : Sound (run host steps) (trainings steps) := by
  induction steps using List.reverseRecOn with
  | nil => exact ⟨List.nodup_nil, by simp [run, emptyJunkModel], by simp [run, emptyJunkModel],
      by simp [run, emptyJunkModel, countsOf, Keyed.get]⟩
  | append_singleton steps step ih =>
    rw [run, List.foldl_append, List.foldl_cons, List.foldl_nil, trainings, List.countP_append]
    cases step with
    | train sample label => exact ih.train
    | untrain sample label => exact ih.untrain

/-- A model that was only trained, of which every token was seen in messages that are counted. -/
structure Counted (model : JunkModel) : Prop where
  distinct : (model.tokens.map Prod.fst).Nodup
  junk : model.junkMessageCount ≤ 2 ^ 53
  good : model.goodMessageCount ≤ 2 ^ 53
  counts : ∀ token counts, countsOf model.tokens token = some counts →
    counts.junk ≤ min maxSafeInteger model.junkMessageCount ∧ counts.good ≤ min maxSafeInteger model.goodMessageCount
  lengths : ∀ entry ∈ model.tokens, 1 ≤ entry.1.length ∧ entry.1.length ≤ 128
  bounded : model.tokens.length ≤ modelTokenLimit

theorem Counted.train {model : JunkModel} (counted : Counted model) : Counted (trainJunkModel host model sample label) := by
  have junk := rounded_one label counted.junk .junk
  have good := rounded_one label counted.good .good
  constructor
  case distinct => exact prune_distinct (trained_distinct counted.distinct)
  case junk => exact junk.1
  case good => exact good.1
  case counts =>
    intro token counts found
    simp only [trainJunkModel, maxSafeInteger] at found ⊢
    rcases countsOf_train counted.distinct found with ⟨rfl, -⟩ | before
    · have known : ((countsOf model.tokens token).getD ⟨0, 0⟩).junk ≤ min maxSafeInteger model.junkMessageCount ∧
          ((countsOf model.tokens token).getD ⟨0, 0⟩).good ≤ min maxSafeInteger model.goodMessageCount := by
        cases existing : countsOf model.tokens token with
        | none => simp
        | some counts => exact counted.counts token counts existing
      simp only [maxSafeInteger] at known
      cases label <;> simp only [raised, maxSafeInteger, JunkLabel.one] at junk good ⊢ <;> simp at junk good ⊢ <;> omega
    · have known := counted.counts token counts before
      simp only [maxSafeInteger] at known
      omega
  case lengths =>
    intro entry member
    have found := countsOf_of_mem (prune_distinct (trained_distinct counted.distinct)) member
    rcases countsOf_train counted.distinct found with ⟨-, isToken⟩ | before
    · exact junkTokens_length isToken
    · exact counted.lengths _ (mem_of_countsOf before)
  case bounded => exact prune_length

theorem counted_empty : Counted emptyJunkModel :=
  ⟨List.nodup_nil, by simp [emptyJunkModel], by simp [emptyJunkModel], by simp [emptyJunkModel, countsOf, Keyed.get],
    by simp [emptyJunkModel], by simp [emptyJunkModel]⟩

theorem Counted.accepted {model : JunkModel} (counted : Counted model) (junk : model.junkMessageCount ≤ maxSafeInteger)
    (good : model.goodMessageCount ≤ maxSafeInteger) : junkModelSchema model = true := by
  simp only [junkModelSchema, Bool.and_eq_true, decide_eq_true_eq, List.all_eq_true]
  refine ⟨⟨⟨junk, good⟩, counted.bounded⟩, fun entry member => ?_⟩
  have counts := counted.counts _ _ (countsOf_of_mem counted.distinct member)
  exact ⟨⟨⟨(counted.lengths _ member).1, (counted.lengths _ member).2⟩, le_trans counts.1 (Nat.min_le_left _ _)⟩,
    le_trans counts.2 (Nat.min_le_left _ _)⟩

end Reachable

section Results

/-- The trainings of samples, each with its label. -/
def trainingsOf (history : List (JunkTrainingSample × JunkLabel)) : List Step :=
  history.map fun (sample, label) => .train sample label

theorem run_counted (host : Host) (history : List (JunkTrainingSample × JunkLabel)) : Counted (run host (trainingsOf history)) := by
  induction history using List.reverseRecOn with
  | nil => exact counted_empty
  | append_singleton history last ih =>
    rw [trainingsOf, List.map_append, run, List.foldl_append]
    exact ih.train

theorem trainings_trainingsOf (history : List (JunkTrainingSample × JunkLabel)) :
    trainings (trainingsOf history) = history.length := by
  rw [trainings, trainingsOf, List.countP_map, List.countP_eq_length]
  exact fun _ _ => rfl

/-- Untraining takes a training back, as long as no count has come to the greatest safe integer; and what was only
trained is counted in its messages, bounded and stored as it is. -/
theorem untrain_undoes (host : Host) :
    (∀ steps sample label, trainings steps < maxSafeInteger →
      (trainedTokens host (run host steps).tokens sample label).length ≤ modelTokenLimit →
      SameModel (untrainJunkModel host (trainJunkModel host (run host steps) sample label) sample label) (run host steps)) ∧
    ∀ history, let model := run host (trainingsOf history)
      (∀ token counts, (token, counts) ∈ model.tokens →
        counts.junk ≤ model.junkMessageCount ∧ counts.good ≤ model.goodMessageCount) ∧
      model.tokens.length ≤ modelTokenLimit ∧
      (history.length ≤ maxSafeInteger → junkModelSchema model = true) := by
  refine ⟨fun steps sample label few room => ?_, fun history => ⟨fun token counts member => ?_, ?_, fun few => ?_⟩⟩
  · have sound := run_sound host steps
    have junk := sound.junk
    have good := sound.good
    simp only [maxSafeInteger] at few
    refine untrain_train room (fun token counts found => ?_) (by omega) (by omega)
    obtain ⟨nonzero, lessJunk, lessGood⟩ := sound.counts token counts found
    exact ⟨nonzero, by simp only [maxSafeInteger]; omega, by simp only [maxSafeInteger]; omega⟩
  · have counted := run_counted host history
    have bounds := counted.counts token counts (countsOf_of_mem counted.distinct member)
    exact ⟨le_trans bounds.1 (Nat.min_le_right _ _), le_trans bounds.2 (Nat.min_le_right _ _)⟩
  · exact (run_counted host history).bounded
  · have sound := run_sound host (trainingsOf history)
    rw [trainings_trainingsOf] at sound
    have junk := sound.junk
    have good := sound.good
    exact (run_counted host history).accepted (by omega) (by omega)

def abc : JunkTrainingSample := ⟨ofString "abc", [], []⟩

def abcDef : JunkTrainingSample := ⟨ofString "abc", [], ofString "def ghi"⟩

/-- Some of the tokens of a message that is trained next, with one label and with the other. -/
def trainedBefore : List Step := [.train abc .junk, .train ⟨[], [], ofString "def"⟩ .good]

theorem untrain_undoes_abcDef :
    (run Host.plain trainedBefore).tokens.length = 2 ∧
    SameModel (untrainJunkModel Host.plain (trainJunkModel Host.plain (run Host.plain trainedBefore) abcDef .good) abcDef .good)
      (run Host.plain trainedBefore) :=
  ⟨by decide, (untrain_undoes Host.plain).1 trainedBefore abcDef .good (by decide) (by decide)⟩

def subjectAbc : JsString := ofString "subject:abc"

theorem junkTokens_abc : junkTokens Host.plain abc = [subjectAbc] := by decide

theorem train_abc (seen : Nat) : trainJunkModel Host.plain ⟨seen, 0, [(subjectAbc, ⟨seen, 0⟩)]⟩ abc .junk =
    ⟨rounded (seen + 1), 0, [(subjectAbc, ⟨min (seen + 1) maxSafeInteger, 0⟩)]⟩ := by
  have trained : trainedTokens Host.plain [(subjectAbc, ⟨seen, 0⟩)] abc .junk =
      [(subjectAbc, ⟨min (seen + 1) maxSafeInteger, 0⟩)] := by
    simp [trainedTokens, junkTokens_abc, trainToken, Keyed.put, countsOf, Keyed.get, raised]
  have few : [(subjectAbc, (⟨min (seen + 1) maxSafeInteger, 0⟩ : JunkTokenCounts))].length ≤ modelTokenLimit := by
    simp [modelTokenLimit]
  rw [trainJunkModel, trained, pruneTokens, if_pos few]
  rfl

/-- A message that is trained over and over is counted up to the greatest safe integer. -/
theorem run_replicate {count : Nat} (some : 1 ≤ count) (few : count ≤ maxSafeInteger) :
    run Host.plain (trainingsOf (List.replicate count (abc, .junk))) = ⟨count, 0, [(subjectAbc, ⟨count, 0⟩)]⟩ := by
  induction count, some using Nat.le_induction with
  | base => decide
  | succ count some ih =>
    rw [List.replicate_succ', trainingsOf, List.map_append, run, List.foldl_append]
    have before := ih (by omega)
    rw [run, trainingsOf] at before
    rw [before]
    have exactly : rounded (count + 1) = count + 1 := rounded_of_le (by simp only [maxSafeInteger] at few; omega)
    have next := train_abc count
    rw [exactly, Nat.min_eq_left few] at next
    exact next

theorem untrain_abc (seen : Nat) : (untrainJunkModel Host.plain
    (trainJunkModel Host.plain ⟨seen, 0, [(subjectAbc, ⟨seen, 0⟩)]⟩ abc .junk) abc .junk).tokens =
      (junkTokens Host.plain abc).foldl (untrainToken .junk) [(subjectAbc, ⟨min (seen + 1) maxSafeInteger, 0⟩)] := by
  rw [train_abc]
  rfl

/-- A count that has come to the greatest safe integer is not raised by a training, but lowered by an untraining. -/
theorem untrain_loses : ¬∀ steps sample label,
    (trainedTokens Host.plain (run Host.plain steps).tokens sample label).length ≤ modelTokenLimit →
      SameModel (untrainJunkModel Host.plain (trainJunkModel Host.plain (run Host.plain steps) sample label) sample label)
        (run Host.plain steps) := by
  intro undoes
  obtain ⟨most, isMost⟩ : ∃ most, most = maxSafeInteger := ⟨_, rfl⟩
  have some : 1 ≤ most := isMost ▸ by decide
  have same := undoes (trainingsOf (List.replicate most (abc, .junk))) abc .junk
  rw [run_replicate some isMost.le] at same
  have room : (trainedTokens Host.plain [(subjectAbc, ⟨most, 0⟩)] abc .junk).length ≤ modelTokenLimit := by
    simp [trainedTokens, junkTokens_abc, trainToken, Keyed.put, modelTokenLimit]
  have counts := (same room).tokens subjectAbc
  have full : min (most + 1) maxSafeInteger = most := by omega
  rw [untrain_abc, full, countsOf_untrained, junkTokens_abc] at counts
  simp [countsOf, Keyed.get, lowered] at counts
  omega

end Results

end JunkClassifier
