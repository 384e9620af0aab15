import MaterialEmail.Library.Program

/-! A database in one file, which changes only when a transaction commits. What its tables are, what can be asked of
them and what the statements make of them is left open. -/
namespace Transactional

open Interrupted

/-- Where the engine gives nothing, the database throws. -/
structure Engine (Tables Query Statement : Type) where
  empty : Tables
  Answer : Query → Type
  answer : (query : Query) → Tables → Option (Answer query)
  perform : Statement → Tables → Option Tables

inductive DatabaseFile (Tables : Type) where
  | missing
  | unreadable
  | holds (tables : Tables)

def DatabaseFile.tables : DatabaseFile Tables → Option Tables
  | .holds tables => some tables
  | _ => none

theorem DatabaseFile.tables_eq_some {file : DatabaseFile Tables} {tables : Tables} :
    file.tables = some tables ↔ file = .holds tables := by
  cases file <;> simp [DatabaseFile.tables]

/-- A file with a suffix can be removed; without one it is the file of the database. -/
inductive Op (Query Statement : Type) where
  | connect
  | query (query : Query)
  | begin
  | statement (statement : Statement)
  | commit
  | rollback
  | close
  | remove (suffix : String)

/-- The file, and the tables of the transaction that has begun. -/
structure State (Tables : Type) where
  file : DatabaseFile Tables
  pending : Option Tables

/-- What a connection sees. -/
def State.tables (s : State Tables) : Option Tables := s.pending <|> s.file.tables

theorem State.tables_idle {s : State Tables} (idle : s.pending = none) : s.tables = s.file.tables := by
  simp [State.tables, idle]

theorem State.tables_begun {s : State Tables} {tables : Tables} (begun : s.pending = some tables) :
    s.tables = some tables := by
  simp [State.tables, begun]

def State.forget (s : State Tables) : State Tables := { s with pending := none }

variable {Tables Query Statement ε α : Type} (E : Engine Tables Query Statement)

abbrev Result : Op Query Statement → Type
  | .query query => E.Answer query
  | _ => Unit

abbrev Reply (op : Op Query Statement) : Type := Option (Result E op)

def happen (op : Op Query Statement) (s : State Tables) : State Tables :=
  match op with
  | .connect =>
    match s.file with
    | .missing => ⟨.holds E.empty, none⟩
    | _ => s.forget
  | .query _ => s
  | .begin =>
    match s.pending with
    | some _ => s
    | none => { s with pending := s.file.tables }
  | .statement statement =>
    match s.pending, s.file with
    | some tables, _ => { s with pending := some ((E.perform statement tables).getD tables) }
    | none, .holds tables => { s with file := .holds ((E.perform statement tables).getD tables) }
    | none, _ => s
  | .commit =>
    match s.pending with
    | some tables => ⟨.holds tables, none⟩
    | none => s
  | .rollback => s.forget
  | .close => s.forget
  | .remove suffix => if suffix = "" then { s with file := .missing } else s

def reply (op : Op Query Statement) (s : State Tables) : Reply E op :=
  match op with
  | .query query => s.tables.bind (E.answer query)
  | .begin =>
    match s.pending with
    | some _ => none
    | none => s.file.tables.map fun _ => ()
  | .statement statement => (s.tables.bind (E.perform statement)).map fun _ => ()
  | .commit => s.pending.map fun _ => ()
  | .rollback => s.pending.map fun _ => ()
  | .connect => some ()
  | .close => some ()
  | .remove _ => some ()

/-- A crash ends the connection, and with it the transaction that has begun. -/
def device : Device (Op Query Statement) (Reply E) Unit (State Tables) where
  effect op
    | .none, s => happen E op s
    | .fail _ extent, s => if extent = .after then happen E op s else s
    | .crash extent, s => if extent = .after then (happen E op s).forget else s.forget
  reply := reply E
  refuse _ _ := none
  infallible _ := false

abbrev Session (ε α : Type) := Program (Op Query Statement) (Reply E) ε α

section Programs

def ask (error : ε) (op : Op Query Statement) : Session E ε (Result E op) :=
  .call op fun
    | some result => .done result
    | none => .throw error

def runAll (error : ε) : List Statement → Session E ε Unit
  | [] => .done ()
  | statement :: statements => (ask E error (.statement statement)).bind fun _ => runAll error statements

/-- `BEGIN`, the statements and `COMMIT`, and `ROLLBACK` where they fail. -/
def transaction (error : ε) (statements : List Statement) : Session E ε Unit :=
  (ask E error .begin).bind fun _ =>
    ((runAll E error statements).bind fun _ => ask E error .commit).catching fun thrown =>
      (((ask E thrown .rollback).catching fun _ => .done ()).bind fun _ => .throw thrown)

end Programs

/-- A condition under all faults. -/
abbrev always (crash : State Tables → Prop) (p : Session E ε α) (post : Except ε α → State Tables → Prop)
    (s : State Tables) : Prop :=
  wp (device E) (fun _ _ _ => True) crash p post s

variable {E} {error : ε} {s : State Tables} {crash : State Tables → Prop}

theorem then_always {α β : Type} {p : Session E ε α} {next : α → Session E ε β}
    {first : Except ε α → State Tables → Prop} {post : Except ε β → State Tables → Prop}
    (begins : always E crash p first s)
    (goes : ∀ ended s', first ended s' → either (fun value s' => always E crash (next value) post s')
      (fun error s' => post (.error error) s') ended s') : always E crash (p >>= next) post s :=
  wp_seq (wp_mono begins goes fun _ => id)

/-- What an operation does it has done, or not, when it fails or when the crash strikes. -/
theorem ask_always {op : Op Query Statement} {post : Except ε (Result E op) → State Tables → Prop}
    (done : ∀ result, reply E op s = some result → post (.ok result) (happen E op s))
    (refused : ∀ s', s' = s ∨ s' = happen E op s → post (.error error) s')
    (crashed : ∀ s', s' = s ∨ s' = happen E op s → crash s'.forget) :
    always E crash (ask E error op) post s := by
  refine ⟨fun _ => ?_, fun code extent _ _ => ?_, fun extent _ => ?_⟩
  · cases found : reply E op s with
    | some result =>
      rw [show (device E).reply op s = some result from found]
      exact done result found
    | none =>
      rw [show (device E).reply op s = none from found]
      exact refused _ (.inr rfl)
  · apply refused
    simp only [device]
    split
    · exact .inr rfl
    · exact .inl rfl
  · simp only [device]
    split
    · exact crashed _ (.inr rfl)
    · exact crashed _ (.inl rfl)

theorem ask_clean {good : Op Query Statement → Fault Unit → State Tables → Prop} {op : Op Query Statement}
    (result : Result E op) {watched : Prop} {post : Except ε (Result E op) → State Tables × Prop → Prop}
    (answered : reply E op s = some result) (done : post (.ok result) (happen E op s, watched ∧ good op .none s)) :
    wp ((device E).watched good) (fun _ fault _ => fault = .none) (fun _ => False) (ask E error op) post (s, watched) := by
  refine ⟨fun _ => ?_, fun _ _ _ strikes => (nomatch strikes), fun _ strikes => (nomatch strikes)⟩
  rw [show ((device E).watched good).reply op (s, watched) = some result from answered]
  exact done

section Transactions

def Engine.performAll (E : Engine Tables Query Statement) : List Statement → Tables → Option Tables
  | [], tables => some tables
  | statement :: statements, tables => (E.perform statement tables).bind (E.performAll statements)

theorem performAll_append (first second : List Statement) (tables : Tables) :
    E.performAll (first ++ second) tables = (E.performAll first tables).bind (E.performAll second) := by
  induction first generalizing tables with
  | nil => rfl
  | cons statement first ih =>
    simp only [List.cons_append, Engine.performAll]
    cases E.perform statement tables with
    | none => rfl
    | some tables' => exact ih tables'

theorem happen_statement {tables : Tables} (statement : Statement) (begun : s.pending = some tables) :
    happen E (.statement statement) s = { s with pending := some ((E.perform statement tables).getD tables) } := by
  simp only [happen, begun]

theorem happen_commit {tables : Tables} (begun : s.pending = some tables) :
    happen E .commit s = ⟨.holds tables, none⟩ := by
  simp only [happen, begun]

theorem file_begin : (happen E .begin s).file = s.file := by
  simp only [happen]
  split <;> rfl

theorem runAll_always {file : DatabaseFile Tables} (statements : List Statement) {tables : Tables} {s : State Tables}
    (is : s.file = file) (begun : s.pending = some tables) :
    always E (fun s' => s'.file = file) (runAll E error statements)
      (either (fun _ s' => s'.file = file ∧ ∃ tables', E.performAll statements tables = some tables' ∧
        s'.pending = some tables') fun _ s' => s'.file = file) s := by
  induction statements generalizing tables s with
  | nil => exact ⟨is, tables, rfl, begun⟩
  | cons statement statements ih =>
    have same : ∀ s', s' = s ∨ s' = happen E (.statement statement) s → s'.file = file := by
      rintro s' (rfl | rfl)
      · exact is
      · rw [happen_statement statement begun]
        exact is
    apply wp_seq
    apply ask_always
    · intro result found
      rw [reply, State.tables_begun begun, Option.bind_some, Option.map_eq_some_iff] at found
      obtain ⟨tables', performed, _⟩ := found
      rw [happen_statement statement begun, performed, Option.getD_some]
      refine wp_mono (ih (s := ⟨s.file, some tables'⟩) is rfl) (fun ended s' holds => ?_) fun _ => id
      cases ended with
      | error thrown => exact holds
      | ok _ =>
        obtain ⟨file', tables'', later, begun'⟩ := holds
        exact ⟨file', tables'', by rw [Engine.performAll, performed]; exact later, begun'⟩
    · exact same
    · exact same

/-- The file holds what the statements make of the tables that it held. -/
def Committed (E : Engine Tables Query Statement) (statements : List Statement)
    (file file' : DatabaseFile Tables) : Prop :=
  ∃ tables tables', file = .holds tables ∧ E.performAll statements tables = some tables' ∧ file' = .holds tables'

/-- A transaction is made whole or not at all; one that returns is made. -/
theorem transaction_always {file : DatabaseFile Tables} (statements : List Statement) (is : s.file = file) :
    always E (fun s' => s'.file = file ∨ Committed E statements file s'.file) (transaction E error statements)
      (either (fun _ s' => Committed E statements file s'.file)
        fun _ s' => s'.file = file ∨ Committed E statements file s'.file) s := by
  have began : ∀ s', s' = s ∨ s' = happen E .begin s → s'.file = file ∨ Committed E statements file s'.file := by
    rintro s' (rfl | rfl)
    · exact .inl is
    · exact .inl (file_begin.trans is)
  apply wp_seq
  apply ask_always
  · intro result found
    simp only [reply] at found
    cases idle : s.pending with
    | some tables =>
      rw [idle] at found
      cases found
    | none =>
      rw [idle, Option.map_eq_some_iff] at found
      obtain ⟨tables, held, _⟩ := found
      have isHeld : file = .holds tables := is.symm.trans (DatabaseFile.tables_eq_some.1 held)
      have begun : happen E .begin s = ⟨file, some tables⟩ := by
        simp only [happen, idle, is, isHeld, DatabaseFile.tables]
      rw [begun]
      -- What is left of the transaction when it fails, and what the failure leaves of the file.
      have undone : ∀ thrown s', s'.file = file ∨ Committed E statements file s'.file →
          always E (fun s' => s'.file = file ∨ Committed E statements file s'.file)
            (((ask E thrown .rollback).catching fun _ => .done ()).bind fun _ => .throw thrown : Session E ε Unit)
            (either (fun _ s' => Committed E statements file s'.file)
              fun _ s' => s'.file = file ∨ Committed E statements file s'.file) s' := by
        intro thrown s' left
        have kept : ∀ s'', s'' = s' ∨ s'' = happen E .rollback s' →
            s''.file = file ∨ Committed E statements file s''.file := by
          rintro s'' (rfl | rfl) <;> exact left
        apply wp_seq
        apply (wp_catching _ _ _ _).2
        apply ask_always
        · exact fun _ _ => left
        · exact kept
        · exact kept
      apply (wp_catching _ _ _ _).2
      apply wp_seq
      refine wp_mono (runAll_always statements (s := ⟨file, some tables⟩) rfl rfl) (fun ended s' holds => ?_)
        fun _ => .inl
      cases ended with
      | error thrown => exact undone thrown s' (.inl holds)
      | ok _ =>
        obtain ⟨still, tables', performed, pending⟩ := holds
        have done : Committed E statements file (happen E .commit s').file :=
          ⟨tables, tables', isHeld, performed, by rw [happen_commit pending]⟩
        have either_ : ∀ s'', s'' = s' ∨ s'' = happen E .commit s' →
            s''.file = file ∨ Committed E statements file s''.file := by
          rintro s'' (rfl | rfl)
          · exact .inl still
          · exact .inr done
        apply ask_always
        · exact fun _ _ => done
        · exact fun s'' is => undone error s'' (either_ s'' is)
        · exact either_
  · exact began
  · exact began

end Transactions

end Transactional
