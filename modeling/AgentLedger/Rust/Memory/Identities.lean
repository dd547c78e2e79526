import AgentLedger.Foundation.Framing
import AgentLedger.Rust.Memory.Calls

namespace AgentLedger.Rust

open Foundation

/-! Ids over the life of a store, which is longer than that of a process. -/

/-! ### Ids determine their numbers -/

/-- The number that digits stand for. -/
def hexNumber (digits : List Char) : Nat :=
  digits.foldl (fun number digit =>
    number * 16 + (JsonText.hexValue digit).getD 0) 0

private theorem hexNumber_append (digits : List Char) (digit : Char) :
    hexNumber (digits ++ [digit]) =
      hexNumber digits * 16 + (JsonText.hexValue digit).getD 0 := by
  rw [hexNumber, List.foldl_append]
  rfl

theorem hexNumber_toDigits (number : Nat) :
    hexNumber (Nat.toDigits 16 number) = number := by
  induction number using Nat.strongRecOn with
  | ind number ih =>
      have last (digit : Nat) (small : digit < 16) :
          (JsonText.hexValue digit.digitChar).getD 0 = digit := by
        have read := Hexadecimal.hexValue_hexDigit digit small
        rw [JsonText.hexDigit] at read
        rw [read, Option.getD_some]
      by_cases small : number < 16
      · rw [Nat.toDigits_of_lt_base small]
        have read := hexNumber_append [] number.digitChar
        rw [List.nil_append] at read
        rw [read, last number small]
        exact Nat.zero_add _
      · have shorter : number / 16 < number :=
          Nat.div_lt_self (by omega) (by omega)
        rw [Nat.toDigits_of_base_le (by omega) (by omega), hexNumber_append,
          ih _ shorter, last _ (Nat.mod_lt _ (by omega))]
        omega

private theorem hexNumber_zeros (count : Nat) (digits : List Char) :
    hexNumber (List.replicate count '0' ++ digits) = hexNumber digits := by
  induction count with
  | zero => rfl
  | succ count ih =>
      rw [List.replicate_succ, List.cons_append]
      exact ih

theorem hex16_injective : Function.Injective hex16 := by
  intro first second texts
  have digits := congrArg (fun text : String => hexNumber text.toList) texts
  simp only [hex16, String.toList_ofList, hexNumber_zeros,
    hexNumber_toDigits] at digits
  exact UInt64.toNat_inj.mp digits

theorem idText_injective {first second : IdKind} {left right : UInt64}
    (texts : idText first left = idText second right) : left = right := by
  have plain (kind : IdKind) : '_' ∉ kind.text.toList := by
    cases kind <;> decide
  have chars := congrArg String.toList texts
  simp only [idText, String.toList_append, List.append_assoc] at chars
  have parts := split_separator (plain first) (plain second) chars
  exact hex16_injective (String.toList_injective parts.2)

/-! ### Lifetimes -/

def Issued.name (issued : Issued) : IdKind × String :=
  (issued.kind, issued.text)

/-- A process, the snapshot on the disk, and the ids that the processes before
it have drawn. -/
structure Lifetimes where
  process : Process
  file : Option String
  earlier : List Issued

namespace Lifetimes

inductive Move
  | call (call : StoreCall)
  /-- An id for the use of the caller. -/
  | draw (kind : IdKind)
  | save
  | load
  | restart (clock : Nat → F64)

def start (clock : Nat → F64) : Lifetimes := ⟨.start clock, none, []⟩

def loaded (read : Result MemoryStore) (process : Process) : Process :=
  match read with
  | .ok store => { process with store := store }
  | .error _ => process

section

variable (text : F64Text)

def next : Move → Lifetimes → Lifetimes
  | .call call, lives => { lives with process := call.next text lives.process }
  | .draw kind, lives => { lives with process := drawId kind lives.process }
  | .save, lives =>
      { lives with file := some (encodeStore text lives.process.store) }
  | .load, lives =>
      match lives.file with
      | some body =>
          { lives with process := loaded (decodeStore text body) lives.process }
      | none => lives
  | .restart clock, lives =>
      { process := .start clock
        file := lives.file
        earlier := lives.earlier ++ lives.process.issued }

end

def issued (lives : Lifetimes) : List Issued :=
  lives.earlier ++ lives.process.issued

/-- No id that was drawn was in the store already, and none was drawn twice. -/
structure Unique (lives : Lifetimes) : Prop where
  absent : ∀ issued ∈ lives.issued, issued.present = false
  distinct : (lives.issued.map Issued.text).Nodup

/-- The counter is above every number that an earlier process has drawn. -/
def Passed (lives : Lifetimes) : Prop :=
  ∀ issued ∈ lives.earlier, issued.number.toNat < lives.process.idCounter

/-- Ids are drawn only when the counter has passed those of the earlier
processes; the entry that is reserved carries an id that was drawn for it. -/
def Careful (text : F64Text) (lives : Lifetimes) : Move → Prop
  | .call (.reserveLedger _ entry) =>
      (.ledger, entry.ledgerId) ∈ lives.issued.map Issued.name
  | .call (.updateLedger ..) | .save | .load | .restart _ => True
  | .call call =>
      -- the call draws none, or the counter has passed them
      (call.next text lives.process).idCounter = lives.process.idCounter ∨
        lives.Passed
  | .draw _ => lives.Passed

/-- The counter has not come round. -/
def InRange (lives : Lifetimes) : Prop := lives.process.idCounter ≤ 2 ^ 64

end Lifetimes

/-! ### The ids of the rows -/

abbrev Names := List (IdKind × String)

/-- The ids of all rows are among these. -/
structure Stored (names : Names) (store : MemoryStore) : Prop where
  runs : ∀ entry ∈ store.runs.entries, (.run, entry.2.runId) ∈ names ∧
    (.session, entry.2.sessionId) ∈ names
  steps : ∀ entry ∈ store.steps.entries, (.step, entry.2.stepId) ∈ names ∧
    ∀ token ∈ entry.2.leaseToken, (.lease, token) ∈ names
  events : ∀ entry ∈ store.events.entries, ∀ event ∈ entry.2,
    (.event, event.eventId) ∈ names
  toolLedger : ∀ entry ∈ store.toolLedger.entries,
    (.ledger, entry.2.ledgerId) ∈ names
  approvalRequests : ∀ entry ∈ store.approvalRequests.entries,
    (.approval, entry.2.approvalId) ∈ names
  costRecords : ∀ entry ∈ store.costRecords.entries, ∀ cost ∈ entry.2,
    (.cost, cost.costId) ∈ names
  artifacts : ∀ entry ∈ store.artifacts.entries, ∀ artifact ∈ entry.2,
    (.artifact, artifact.artifactId) ∈ names

namespace Stored

variable {names : Names} {store : MemoryStore}

theorem new : Stored names .new where
  runs _ member := by cases member
  steps _ member := by cases member
  events _ member := by cases member
  toolLedger _ member := by cases member
  approvalRequests _ member := by cases member
  costRecords _ member := by cases member
  artifacts _ member := by cases member

theorem mono (stored : Stored names store) {more : Names}
    (subset : ∀ name ∈ names, name ∈ more) : Stored more store where
  runs entry member :=
    ⟨subset _ (stored.runs entry member).1, subset _ (stored.runs entry member).2⟩
  steps entry member := ⟨subset _ (stored.steps entry member).1,
    fun token given => subset _ ((stored.steps entry member).2 token given)⟩
  events entry member event inside :=
    subset _ (stored.events entry member event inside)
  toolLedger entry member := subset _ (stored.toolLedger entry member)
  approvalRequests entry member :=
    subset _ (stored.approvalRequests entry member)
  costRecords entry member cost inside :=
    subset _ (stored.costRecords entry member cost inside)
  artifacts entry member artifact inside :=
    subset _ (stored.artifacts entry member artifact inside)

private theorem of_values {Row : Type} {map : Dictionary String Row}
    {id : Row → String} {kind : IdKind} {text : String}
    (each : ∀ entry ∈ map.entries, (kind, id entry.2) ∈ names)
    (member : text ∈ map.values.map id) : (kind, text) ∈ names := by
  obtain ⟨row, listed, rfl⟩ := List.mem_map.mp member
  obtain ⟨entry, own, rfl⟩ := List.mem_map.mp listed
  exact each entry own

private theorem of_vectors {Row : Type} {map : Dictionary String (List Row)}
    {id : Row → String} {kind : IdKind} {text : String}
    (each : ∀ entry ∈ map.entries, ∀ row ∈ entry.2, (kind, id row) ∈ names)
    (member : text ∈ map.values.flatten.map id) : (kind, text) ∈ names := by
  obtain ⟨row, listed, rfl⟩ := List.mem_map.mp member
  obtain ⟨rows, one, inside⟩ := List.mem_flatten.mp listed
  obtain ⟨entry, own, rfl⟩ := List.mem_map.mp one
  exact each entry own row inside

theorem mem_of_ids (stored : Stored names store) {kind : IdKind} {id : String}
    (member : id ∈ store.ids kind) : (kind, id) ∈ names := by
  cases kind with
  | run => exact of_values (fun entry own => (stored.runs entry own).1) member
  | session =>
      exact of_values (fun entry own => (stored.runs entry own).2) member
  | step => exact of_values (fun entry own => (stored.steps entry own).1) member
  | lease =>
      obtain ⟨step, listed, given⟩ := List.mem_filterMap.mp member
      obtain ⟨entry, own, rfl⟩ := List.mem_map.mp listed
      exact (stored.steps entry own).2 id given
  | event => exact of_vectors stored.events member
  | ledger => exact of_values stored.toolLedger member
  | toolCall => cases member
  | approval => exact of_values stored.approvalRequests member
  | cost => exact of_vectors stored.costRecords member
  | artifact => exact of_vectors stored.artifacts member

end Stored

theorem Dictionary.each_push {Row : Type} {map : Dictionary String (List Row)}
    {good : Row → Prop} (each : ∀ entry ∈ map.entries, ∀ row ∈ entry.2,
      good row) {key : String} {row : Row} (own : good row) :
    ∀ entry ∈ (map.push key row).entries, ∀ row ∈ entry.2, good row := by
  apply Dictionary.forall_insert each
  intro held member
  rcases List.mem_append.mp member with before | last
  · cases found : map.get? key with
    | none =>
        rw [found] at before
        cases before
    | some rows =>
        rw [found] at before
        exact each _ (Dictionary.mem_of_get? found) held before
  · rw [List.mem_singleton.mp last]
    exact own

end AgentLedger.Rust
