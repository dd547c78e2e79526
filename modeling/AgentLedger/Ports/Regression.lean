import AgentLedger.Go.Regression
import AgentLedger.Rust.Memory.Calls
import AgentLedger.Rust.Regression
import AgentLedger.TypeScript.Regression
import Mathlib.Data.Rat.Encodable

namespace AgentLedger.Ports

open Foundation

/-! The golden regression gate of the three ports. -/

/-- When the gates pass exactly where the runs are equal: in Go where bundles
that are alike lack the same, in TypeScript where the members of equal ones
stand in the same order, and in Rust where the tool ledgers agree and equal
runs have the same rows. -/
theorem regression_gates_complete_iff (numerals : JsonText.Numerals Rat)
    {text : Rust.F64Text} (lawful : text.Lawful)
    (shown : Rust.F64 → String) :
    (∀ golden current : Go.EvidenceBundle,
      ((Go.evaluateEvidenceRegression numerals shown golden current
          none).passed = true ↔ golden.view = current.view) ↔
        (golden.Alike current → golden.SamePresence current)) ∧
    (∀ golden current : TypeScript.EvidenceBundle,
      ((TypeScript.evaluateEvidenceRegression numerals shown golden current
          none).passed = true ↔ golden.view = current.view) ↔
        (golden.Alike current → golden.SamePrototype current) ∧
          (golden.view = current.view → golden.SameOrder current)) ∧
    ∀ golden current : Rust.EvidenceBundle,
      ((Rust.evaluateEvidenceRegression text golden current none).passed =
          true ↔ golden.view = current.view) ↔
        (golden.Alike current →
          golden.toolLedger.map Rust.ToolLedgerEntry.status =
            current.toolLedger.map Rust.ToolLedgerEntry.status) ∧
          (golden.view = current.view → golden.SameRows current) :=
  ⟨fun _ _ => Go.regression_complete_iff,
    fun _ _ => TypeScript.regression_complete_iff,
    fun _ _ => Rust.regression_complete_iff lawful⟩

/-! ### Two runs of one tool -/

/-- What the tool has sent. -/
def sentState : JsonObject where
  fields := [("sent", .int 1)]
  canonical := ⟨nofun, trivial, trivial⟩

/-- The same with its members in their order. -/
def sentMembers : OrderedObject where
  fields := sentState.fields
  distinct := ⟨by simp [Fields.keys], trivial, trivial⟩

def goBundle (runId status : String) : Go.EvidenceBundle where
  bundleHash := "sha256:" ++ runId
  run := { Go.Run.zero with runId := runId, state := sentState }
  events := []
  toolLedger :=
    [⟨"ledger_" ++ runId, runId, "session", "step", "email.send", "v1",
      "toolcall", runId ++ ":step:email.send", "", "", "", status, "", "", "",
      "", .null, .zero, .zero⟩]
  mediaArtifacts := []
  streamCheckpoints := []
  totalUSD := .zero
  summary := .empty
  finalState := sentState

def typeScriptBundle (runId status : String) : TypeScript.EvidenceBundle where
  bundleHash := "sha256:" ++ runId
  run := ⟨runId, "session", "completed", sentMembers, 1, ⟨0⟩, ⟨0⟩⟩
  events := []
  toolLedger :=
    [{ ledgerId := "ledger_" ++ runId
       runId := runId
       sessionId := "session"
       stepId := "step"
       toolName := "email.send"
       toolVersion := "v1"
       toolCallId := "toolcall"
       idempotencyKey := runId ++ ":step:email.send"
       causalToken := ""
       requestHash := ""
       requestRef := ""
       status := status
       createdAt := ⟨0⟩
       updatedAt := ⟨0⟩ }]
  mediaArtifacts := []
  streamCheckpoints := []
  totalUsd := ⟨0⟩
  summary := ⟨[], trivial⟩
  finalState := sentMembers

def rustBundle (runId status : String) : Rust.EvidenceBundle where
  bundleHash := "sha256:" ++ runId
  run := ⟨runId, "session", "completed", Rust.State.new, 1, ⟨0⟩, ⟨0⟩⟩
  events := []
  toolLedger :=
    [{ Rust.emptyEntry (runId ++ ":step:email.send") with
        ledgerId := "ledger_" ++ runId, status := status }]
  mediaArtifacts := []
  streamCheckpoints := []
  totalUsd := ⟨0⟩
  finalState := Rust.State.new
  finite := rfl
  finiteRows := by simp

/-- Numbers by their codes. -/
def codeNumerals : JsonText.Numerals Rat where
  print number := (Encodable.encode number).repr.toList
  parse text := (Decimal.parseNat (String.ofList text)).bind Encodable.decode
  nonempty number := by
    obtain ⟨first, rest, written, _⟩ :=
      Decimal.head_repr (Encodable.encode number)
    rw [written]
    exact List.cons_ne_nil _ _
  numeral number := by
    rw [List.all_eq_true]
    intro char member
    simp [JsonText.isNumeral, Decimal.isDigit_of_mem member]
  parse_print number := by
    rw [String.ofList_toList, Decimal.parseNat_repr, Option.bind_some,
      Encodable.encodek]

/-- Where the tool has succeeded in both runs the gates of the three ports pass,
and where it has failed in one those of Go and TypeScript do not. -/
theorem equal_ledgers_pass :
    (Go.evaluateEvidenceRegression codeNumerals (fun _ => "")
        (goBundle "first" "SUCCEEDED") (goBundle "second" "SUCCEEDED")
        none).passed = true ∧
      ¬(Go.evaluateEvidenceRegression codeNumerals (fun _ => "")
        (goBundle "first" "SUCCEEDED") (goBundle "second" "FAILED")
        none).passed = true ∧
      (TypeScript.evaluateEvidenceRegression codeNumerals (fun _ => "")
        (typeScriptBundle "first" "SUCCEEDED")
        (typeScriptBundle "second" "SUCCEEDED") none).passed = true ∧
      ¬(TypeScript.evaluateEvidenceRegression codeNumerals (fun _ => "")
        (typeScriptBundle "first" "SUCCEEDED")
        (typeScriptBundle "second" "FAILED") none).passed = true ∧
      (Rust.evaluateEvidenceRegression Rust.bitText
        (rustBundle "first" "SUCCEEDED") (rustBundle "second" "SUCCEEDED")
        none).passed = true := by
  obtain ⟨go, typeScript, rust⟩ :=
    regression_gates_complete_iff codeNumerals Rust.bitText_lawful
      (fun _ => "")
  refine ⟨((go _ _).mpr fun _ => ⟨fun _ => rfl, rfl, rfl⟩).mpr rfl, ?_,
    ((typeScript _ _).mpr ⟨fun _ => rfl, fun _ => ⟨fun _ _ => rfl, rfl,
      rfl⟩⟩).mpr rfl, ?_,
    ((rust _ _).mpr ⟨fun _ => rfl, fun _ => ⟨rfl, rfl⟩⟩).mpr rfl⟩
  · intro passed
    have same := ((go (goBundle "first" "SUCCEEDED")
      (goBundle "second" "FAILED")).mpr fun _ =>
        ⟨fun _ => rfl, rfl, rfl⟩).mp passed
    have statuses := congrArg EvidenceView.ledgerStatuses same
    revert statuses
    decide
  · intro passed
    have same := ((typeScript (typeScriptBundle "first" "SUCCEEDED")
      (typeScriptBundle "second" "FAILED")).mpr ⟨fun _ => rfl,
        fun _ => ⟨fun _ _ => rfl, rfl, rfl⟩⟩).mp passed
    have statuses := congrArg EvidenceView.ledgerStatuses same
    revert statuses
    decide

/-- The gate of the Rust port passes a run whose tool call failed. -/
theorem failed_ledger_passes :
    (Rust.evaluateEvidenceRegression Rust.bitText
        (rustBundle "first" "SUCCEEDED") (rustBundle "second" "FAILED")
        none).passed = true ∧
      (rustBundle "first" "SUCCEEDED").view ≠
        (rustBundle "second" "FAILED").view := by
  refine ⟨by decide, ?_⟩
  intro same
  have statuses := congrArg EvidenceView.ledgerStatuses same
  revert statuses
  decide

end AgentLedger.Ports
