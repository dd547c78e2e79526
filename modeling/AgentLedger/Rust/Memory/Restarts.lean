import AgentLedger.Rust.Memory.Identities

namespace AgentLedger.Rust

open Foundation

/-! A store that is written by one process and read by the next keeps its ids;
the counter starts again. -/

/-! ### Ids of a row that is read back -/

section Rows

variable {text : F64Text}

theorem decodeRun_ids {run read : Run}
    (decoded : decodeRun text (Run.fields text run) = .ok read) :
    read.runId = run.runId ∧ read.sessionId = run.sessionId := by
  simp only [decodeRun, Run.fields, fieldAt, List.getD_cons_succ,
    List.getD_cons_zero, hexDecode_hexEncode, bind_eq_ok, Except.ok.injEq,
    exists_eq_left'] at decoded
  obtain ⟨_, _, _, _, _, _, _, _, _, _, same⟩ := decoded
  cases same
  exact ⟨rfl, rfl⟩

theorem decodeStep_ids {step read : Step}
    (decoded : decodeStep text (Step.fields text step) = .ok read) :
    read.stepId = step.stepId ∧ read.leaseToken = step.leaseToken := by
  simp only [decodeStep, Step.fields, fieldAt, List.getD_cons_succ,
    List.getD_cons_zero, hexDecode_hexEncode, decodeOptionString_encode,
    parseU64_toString, bind_eq_ok, Except.ok.injEq, exists_eq_left'] at decoded
  obtain ⟨_, _, _, _, _, _, _, _, _, _, same⟩ := decoded
  cases same
  exact ⟨rfl, rfl⟩

theorem decodeEvent_id {event read : Event}
    (decoded : decodeEvent text (Event.fields text event) = .ok read) :
    read.eventId = event.eventId := by
  simp only [decodeEvent, Event.fields, fieldAt, List.getD_cons_succ,
    List.getD_cons_zero, hexDecode_hexEncode, decodeOptionString_encode,
    parseU64_toString, decodeOptionU64_encode, bind_eq_ok, Except.ok.injEq,
    exists_eq_left'] at decoded
  obtain ⟨_, _, _, _, _, _, same⟩ := decoded
  cases same
  rfl

theorem decodeLedger_id {entry read : ToolLedgerEntry}
    (decoded : decodeLedger text (ToolLedgerEntry.fields text entry) =
      .ok read) : read.ledgerId = entry.ledgerId := by
  simp only [decodeLedger, ToolLedgerEntry.fields, fieldAt,
    List.getD_cons_succ, List.getD_cons_zero, hexDecode_hexEncode,
    decodeOptionString_encode, bind_eq_ok, Except.ok.injEq,
    exists_eq_left'] at decoded
  obtain ⟨_, _, _, _, _, _, _, _, same⟩ := decoded
  cases same
  rfl

theorem decodeApproval_id {approval read : ApprovalRequest}
    (decoded : decodeApproval text (ApprovalRequest.fields text approval) =
      .ok read) : read.approvalId = approval.approvalId := by
  simp only [decodeApproval, ApprovalRequest.fields, fieldAt,
    List.getD_cons_succ, List.getD_cons_zero, hexDecode_hexEncode,
    decodeOptionString_encode, bind_eq_ok, Except.ok.injEq,
    exists_eq_left'] at decoded
  obtain ⟨_, _, _, _, _, _, same⟩ := decoded
  cases same
  rfl

theorem decodeCost_id {cost read : CostRecord}
    (decoded : decodeCost text (CostRecord.fields text cost) = .ok read) :
    read.costId = cost.costId := by
  simp only [decodeCost, CostRecord.fields, fieldAt, List.getD_cons_succ,
    List.getD_cons_zero, hexDecode_hexEncode, bind_eq_ok, Except.ok.injEq,
    exists_eq_left'] at decoded
  obtain ⟨_, _, _, _, _, _, _, _, same⟩ := decoded
  cases same
  rfl

theorem decodeArtifact_id {artifact read : Artifact}
    (decoded : decodeArtifact text (Artifact.fields text artifact) =
      .ok read) : read.artifactId = artifact.artifactId := by
  simp only [decodeArtifact, Artifact.fields, fieldAt, List.getD_cons_succ,
    List.getD_cons_zero, hexDecode_hexEncode, decodeOptionString_encode,
    bind_eq_ok, Except.ok.injEq, exists_eq_left'] at decoded
  obtain ⟨_, _, _, _, _, _, same⟩ := decoded
  cases same
  rfl

/-! ### The store that is read back -/

variable {names : Names} {store after : MemoryStore}

private theorem map_ok {α β : Type} {first : Result α} {change : α → β}
    {value : β} (mapped : first.map change = .ok value) :
    ∃ held, first = .ok held ∧ change held = value := by
  cases first with
  | error error => cases mapped
  | ok held => exact ⟨held, rfl, Except.ok.inj mapped⟩

private theorem mem_sorted {Row : Type} {map : Dictionary String Row}
    {key : Row → String} {row : Row}
    (member : row ∈ sortedBy key map.values) :
    ∃ entry ∈ map.entries, entry.2 = row :=
  List.mem_map.mp ((List.mem_insertionSort _).mp member)

/-- A line of a store with known ids adds a row with known ids. -/
theorem Stored.decodeLine (lawful : text.Lawful) {written : MemoryStore}
    (known : Stored names written) (stored : Stored names store)
    {fields : List String} (member : fields ∈ storeRows text written)
    (decoded : decodeLine text store (joinFields fields) = .ok after) :
    Stored names after := by
  rw [Rust.decodeLine, (rowFields_storeRows lawful written fields member).split]
    at decoded
  simp only [storeRows, List.mem_append, List.mem_map] at member
  rcases member with ⟨row, own, rfl⟩ | ⟨row, own, rfl⟩ | ⟨row, own, rfl⟩ |
    ⟨row, own, rfl⟩ | ⟨row, own, rfl⟩ | ⟨row, own, rfl⟩ | ⟨row, own, rfl⟩
  · obtain ⟨read, held, rfl⟩ := map_ok decoded
    obtain ⟨run, session⟩ := decodeRun_ids held
    obtain ⟨entry, inside, rfl⟩ := mem_sorted own
    have listed := known.runs entry inside
    rw [← run, ← session] at listed
    exact { stored with runs := Dictionary.forall_insert stored.runs listed }
  · obtain ⟨read, held, rfl⟩ := map_ok decoded
    obtain ⟨step, lease⟩ := decodeStep_ids held
    obtain ⟨entry, inside, rfl⟩ := mem_sorted own
    have listed := known.steps entry inside
    rw [← step, ← lease] at listed
    exact { stored with steps := Dictionary.forall_insert stored.steps listed }
  · obtain ⟨read, held, rfl⟩ := map_ok decoded
    have listed := forall_inKeyOrder known.events row own
    rw [← decodeEvent_id held] at listed
    exact { stored with events := Dictionary.each_push stored.events listed }
  · obtain ⟨read, held, rfl⟩ := map_ok decoded
    obtain ⟨entry, inside, rfl⟩ := mem_sorted own
    have listed := known.toolLedger entry inside
    rw [← decodeLedger_id held] at listed
    exact { stored with
      toolLedger := Dictionary.forall_insert stored.toolLedger listed }
  · obtain ⟨read, held, rfl⟩ := map_ok decoded
    obtain ⟨entry, inside, rfl⟩ := mem_sorted own
    have listed := known.approvalRequests entry inside
    rw [← decodeApproval_id held] at listed
    exact { stored with approvalRequests :=
      Dictionary.forall_insert stored.approvalRequests listed }
  · obtain ⟨read, held, rfl⟩ := map_ok decoded
    have listed := forall_inKeyOrder known.costRecords row own
    rw [← decodeCost_id held] at listed
    exact { stored with
      costRecords := Dictionary.each_push stored.costRecords listed }
  · obtain ⟨read, held, rfl⟩ := map_ok decoded
    have listed := forall_inKeyOrder known.artifacts row own
    rw [← decodeArtifact_id held] at listed
    exact { stored with
      artifacts := Dictionary.each_push stored.artifacts listed }

/-- The ids of a store that is read back are those of the store that was
written, whether its numbers are or not. -/
theorem Stored.decodeStore (lawful : text.Lawful) {written read : MemoryStore}
    (known : Stored names written)
    (decoded : decodeStore text (encodeStore text written) = .ok read) :
    Stored names read := by
  rw [decodeStore_encodeStore_eq lawful] at decoded
  have lines (rows : List (List String))
      (listed : ∀ fields ∈ rows, fields ∈ storeRows text written)
      (store : MemoryStore) (stored : Stored names store)
      (folded : (rows.map joinFields).foldlM (Rust.decodeLine text) store =
        .ok read) : Stored names read := by
    induction rows generalizing store with
    | nil =>
        cases folded
        exact stored
    | cons fields rest ih =>
        rw [List.map_cons, List.foldlM_cons, bind_eq_ok] at folded
        obtain ⟨next, line, later⟩ := folded
        exact ih (fun other member => listed other
            (List.mem_cons_of_mem _ member)) next
          (known.decodeLine lawful stored (listed _ List.mem_cons_self) line)
          later
  exact lines _ (fun _ member => member) .new Stored.new decoded

end Rows

/-! ### Draws -/

namespace Lifetimes

/-- The ids of the lives of a store so far. -/
def names (issued : List Issued) : Names := issued.map Issued.name

/-- Every id in the store was drawn, no id was there before it was drawn, and
the counter has not come round. -/
structure Sound (earlier : List Issued) (process : Process) : Prop where
  stored : Stored (names (earlier ++ process.issued)) process.store
  absent : ∀ issued ∈ earlier ++ process.issued, issued.present = false
  distinct : ((earlier ++ process.issued).map Issued.text).Nodup
  below : ∀ issued ∈ process.issued,
    issued.number.toNat < process.idCounter

/-- What an operation keeps that draws ids up to a limit: where it still may the
counter has passed those of the earlier processes, and the ids in hand are among
those that were drawn. -/
def Drawn (earlier : List Issued) (limit : Nat) (known : Known)
    (process : Process) : Prop :=
  process.idCounter ≤ limit → Sound earlier process ∧
    (process.idCounter < limit →
      ∀ issued ∈ earlier, issued.number.toNat < process.idCounter) ∧
    ∀ name ∈ known, name ∈ names (earlier ++ process.issued)

theorem Sound.draw {earlier : List Issued} {process : Process}
    (sound : Sound earlier process)
    (passed : ∀ issued ∈ earlier, issued.number.toNat < process.idCounter)
    (small : process.idCounter < 2 ^ 64) (kind : IdKind) :
    Sound earlier (drawId kind process) := by
  have number : (UInt64.ofNat process.idCounter).toNat = process.idCounter :=
    UInt64.toNat_ofNat_of_lt' small
  have below : ∀ issued ∈ earlier ++ process.issued,
      issued.number.toNat < process.idCounter := by
    intro issued member
    rcases List.mem_append.mp member with before | own
    · exact passed issued before
    · exact sound.below issued own
  have fresh : ∀ issued ∈ earlier ++ process.issued,
      issued.text ≠ idText kind (UInt64.ofNat process.idCounter) := by
    intro issued member same
    have less := below issued member
    rw [idText_injective same, number] at less
    exact Nat.lt_irrefl _ less
  have absent : idText kind (UInt64.ofNat process.idCounter) ∉
      process.store.ids kind := by
    intro member
    obtain ⟨issued, drawn, same⟩ :=
      List.mem_map.mp (sound.stored.mem_of_ids member)
    exact fresh issued drawn (congrArg Prod.snd same)
  have longer : earlier ++ (drawId kind process).issued =
      (earlier ++ process.issued) ++
        [⟨kind, UInt64.ofNat process.idCounter,
          decide (idText kind (UInt64.ofNat process.idCounter) ∈
            process.store.ids kind)⟩] := (List.append_assoc ..).symm
  constructor
  case stored =>
      rw [longer]
      apply sound.stored.mono
      intro name member
      rw [names, List.map_append]
      exact List.mem_append_left _ member
  case absent =>
      rw [longer]
      intro issued member
      rcases List.mem_append.mp member with before | last
      · exact sound.absent issued before
      · rw [List.mem_singleton.mp last]
        exact decide_eq_false absent
  case distinct =>
      rw [longer, List.map_append, List.nodup_append]
      refine ⟨sound.distinct, List.nodup_singleton _, ?_⟩
      intro text member other single
      rw [List.mem_singleton.mp single]
      obtain ⟨issued, drawn, rfl⟩ := List.mem_map.mp member
      exact fresh issued drawn
  case below =>
      intro issued member
      rcases List.mem_append.mp member with before | last
      · exact Nat.lt_succ_of_lt (sound.below issued before)
      · rw [List.mem_singleton.mp last, number]
        exact Nat.lt_succ_self _

variable {earlier : List Issued} {limit : Nat} {known : Known}
  {process : Process}

theorem Drawn.draw (bound : limit ≤ 2 ^ 64)
    (drawn : Drawn earlier limit known process) (kind : IdKind) :
    Drawn earlier limit
      ((kind, idText kind (UInt64.ofNat process.idCounter)) :: known)
      (drawId kind process) := by
  intro small
  have before : process.idCounter < limit := small
  obtain ⟨sound, room, held⟩ := drawn before.le
  have passed := room before
  have kept : ∀ name ∈ names (earlier ++ process.issued),
      name ∈ names (earlier ++ (drawId kind process).issued) := by
    intro name member
    rw [names, drawId, ← List.append_assoc, List.map_append]
    exact List.mem_append_left _ member
  refine ⟨sound.draw passed (before.trans_le bound) kind,
    fun _ issued member => Nat.lt_succ_of_lt (passed issued member), ?_⟩
  intro name member
  rcases List.mem_cons.mp member with rfl | later
  · rw [names, drawId, ← List.append_assoc, List.map_append]
    exact List.mem_append_right _ List.mem_cons_self
  · exact kept name (held name later)

theorem Drawn.change (drawn : Drawn earlier limit known process)
    {store : MemoryStore}
    (kept : ∀ names, (∀ name ∈ known, name ∈ names) →
      Stored names process.store → Stored names store) :
    Drawn earlier limit known { process with store := store } := by
  intro small
  obtain ⟨sound, passed, held⟩ := drawn small
  exact ⟨{ sound with stored := kept _ held sound.stored }, passed, held⟩

open MemoryStore

theorem rules_drawn (earlier : List Issued) (bound : limit ≤ 2 ^ 64) :
    Rules (Drawn earlier limit) where
  forget drawn small :=
    ⟨(drawn small).1, (drawn small).2.1, fun name member =>
      (drawn small).2.2 name (List.mem_cons_of_mem _ member)⟩
  draw drawn := drawn.draw bound _
  tick drawn small :=
    ⟨{ (drawn small).1 with }, (drawn small).2.1, (drawn small).2.2⟩
  insertRun run session := Keeps.modify fun _ drawn =>
    drawn.change fun _ held stored =>
      have own := And.intro (held _ run) (held _ session)
      { stored with runs := Dictionary.forall_insert stored.runs own }
  changeRun same := Keeps.bind_get fun process drawn => by
    cases found : process.store.runs.get? _ with
    | none => exact drawn
    | some run =>
        apply drawn.change
        intro names _ stored
        have own := stored.runs _ (Dictionary.mem_of_get? found)
        rw [← (same run).1, ← (same run).2] at own
        exact { stored with runs := Dictionary.forall_insert stored.runs own }
  changeRunIfAny same := Keeps.modify fun _ drawn =>
    drawn.change fun _ _ stored =>
      { stored with
        runs := Dictionary.forall_modify stored.runs fun run own => by
          rwa [(same run).1, (same run).2] }
  insertStep step lease := Keeps.modify fun _ drawn => by
    apply drawn.change
    intro names held stored
    have own := held _ step
    refine { stored with steps := Dictionary.forall_insert stored.steps ?_ }
    refine ⟨own, fun token given => ?_⟩
    rw [lease] at given
    cases given
  changeStep same := Keeps.bind_get fun process drawn => by
    cases found : process.store.steps.get? _ with
    | none => exact drawn
    | some step =>
        apply drawn.change
        intro names held stored
        obtain ⟨id, lease⟩ := same step
        obtain ⟨own, token⟩ := stored.steps _ (Dictionary.mem_of_get? found)
        rw [← id] at own
        refine { stored with steps :=
          Dictionary.forall_insert stored.steps ?_ }
        refine ⟨own, fun issued given => ?_⟩
        rcases lease issued given with before | fresh
        · exact token issued before
        · exact held _ fresh
  pushEvent event := Keeps.modify fun _ drawn =>
    drawn.change fun _ held stored =>
      { stored with
        events := Dictionary.each_push stored.events (held _ event) }
  changeLedger same := Keeps.modify fun _ drawn =>
    drawn.change fun _ _ stored =>
      { stored with
        toolLedger := Dictionary.forall_modify stored.toolLedger
          fun entry own => by rwa [(same entry).1] }
  insertApproval approval := Keeps.modify fun _ drawn =>
    drawn.change fun _ held stored =>
      { stored with approvalRequests :=
          Dictionary.forall_insert stored.approvalRequests (held _ approval) }
  changeApproval same := Keeps.bind_get fun process drawn => by
    cases found : process.store.approvalRequests.get? _ with
    | none => exact drawn
    | some approval =>
        apply drawn.change
        intro names _ stored
        have own := stored.approvalRequests _ (Dictionary.mem_of_get? found)
        rw [← (same approval).1] at own
        exact { stored with approvalRequests :=
          Dictionary.forall_insert stored.approvalRequests own }
  pushCost cost := Keeps.modify fun _ drawn =>
    drawn.change fun _ held stored =>
      { stored with
        costRecords := Dictionary.each_push stored.costRecords (held _ cost) }
  pushArtifact artifact := Keeps.modify fun _ drawn =>
    drawn.change fun _ held stored =>
      { stored with
        artifacts := Dictionary.each_push stored.artifacts (held _ artifact) }

/-- Nothing that was drawn is forgotten. -/
def Grown (before after : Process) : Prop :=
  before.issued <+: after.issued ∧ before.idCounter ≤ after.idCounter

private theorem Grown.draw {before after : Process}
    (grown : Grown before after) (kind : IdKind) :
    Grown before (drawId kind after) :=
  ⟨grown.1.trans (List.prefix_append _ _), grown.2.trans (Nat.le_succ _)⟩

theorem rules_grown (before : Process) : Rules fun _ => Grown before where
  forget grown := grown
  draw grown := grown.draw _
  tick grown := grown
  insertRun _ _ := Keeps.modify fun _ grown => grown
  changeRun _ := Keeps.bind_get fun process grown => by
    cases process.store.runs.get? _ <;> exact grown
  changeRunIfAny _ := Keeps.modify fun _ grown => grown
  insertStep _ _ := Keeps.modify fun _ grown => grown
  changeStep _ := Keeps.bind_get fun process grown => by
    cases process.store.steps.get? _ <;> exact grown
  pushEvent _ := Keeps.modify fun _ grown => grown
  changeLedger _ := Keeps.modify fun _ grown => grown
  insertApproval _ := Keeps.modify fun _ grown => grown
  changeApproval _ := Keeps.bind_get fun process grown => by
    cases process.store.approvalRequests.get? _ <;> exact grown
  pushCost _ := Keeps.modify fun _ grown => grown
  pushArtifact _ := Keeps.modify fun _ grown => grown

theorem grown_next (text : F64Text) (call : StoreCall) (process : Process) :
    Grown process (call.next text process) :=
  @StoreCall.keeps_next _ (rules_grown process) [] text process
    ⟨List.prefix_rfl, Nat.le_refl _⟩ call
    fun _ _ _ => Keeps.modify fun _ grown => grown

private theorem mem_grown {before after : Process}
    (grown : Grown before after) {earlier : List Issued}
    {name : IdKind × String}
    (member : name ∈ names (earlier ++ before.issued)) :
    name ∈ names (earlier ++ after.issued) := by
  obtain ⟨rest, same⟩ := grown.1
  rw [names, ← same, ← List.append_assoc, List.map_append]
  exact List.mem_append_left _ member

/-! ### Lives -/

/-- What holds of a store over its lives: its ids are drawn ones, in memory and
in the snapshot. -/
structure Kept (text : F64Text) (lives : Lifetimes) : Prop where
  inRange : lives.InRange
  sound : Sound lives.earlier lives.process
  file : ∀ body ∈ lives.file, ∃ written,
    body = encodeStore text written ∧ Stored (names lives.issued) written

/-- The condition of a move, which leaves the counter in its range. -/
def Admits (text : F64Text) (lives : Lifetimes) (move : Move) : Prop :=
  lives.Careful text move ∧ (next text move lives).InRange

section

variable {text : F64Text} {lives : Lifetimes}

private theorem sound_reserve (sound : Sound earlier process) {key : String}
    {entry : ToolLedgerEntry}
    (own : (.ledger, entry.ledgerId) ∈ names (earlier ++ process.issued)) :
    Sound earlier ((StoreCall.reserveLedger key entry).next text process) := by
  let kept : Known → Process → Prop := fun _ after =>
    (.ledger, entry.ledgerId) ∈ names (earlier ++ after.issued) ∧
      Sound earlier after
  have insert : Keeps (kept []) (insertLedger key entry) :=
    Keeps.modify fun after holds => ⟨holds.1, { holds.2 with
      stored := { holds.2.stored with
        toolLedger :=
          Dictionary.forall_insert holds.2.stored.toolLedger holds.1 } }⟩
  exact ((keeps_reserveLedger insert).after process ⟨own, sound⟩).2

private theorem sound_update (sound : Sound earlier process)
    (key status : String) (externalId : Option String)
    (response : Option MapValue) (errorType : Option String) :
    Sound earlier ((StoreCall.updateLedger key status externalId response
      errorType).next text process) := by
  refine (keeps_updateRow text (fun holds => { holds with })
    fun change same => ?_).after process sound
  exact Keeps.modify fun after holds => { holds with
    stored := { holds.stored with
      toolLedger := Dictionary.forall_modify holds.stored.toolLedger
        fun entry own => by rwa [(same entry).1] } }

private theorem sound_drawing (sound : Sound earlier process) (call : StoreCall)
    (careful : (call.next text process).idCounter = process.idCounter ∨
      ∀ issued ∈ earlier, issued.number.toNat < process.idCounter)
    (range : (call.next text process).idCounter ≤ 2 ^ 64)
    (other : ∀ key entry, call ≠ .reserveLedger key entry) :
    Sound earlier (call.next text process) := by
  -- a call that draws none is at its limit from the start
  obtain ⟨limit, bound, inside, room⟩ : ∃ limit ≤ 2 ^ 64,
      (call.next text process).idCounter ≤ limit ∧
        (process.idCounter < limit →
          ∀ issued ∈ earlier, issued.number.toNat < process.idCounter) := by
    rcases careful with same | passed
    · exact ⟨_, range, le_rfl, fun less => absurd same less.ne'⟩
    · exact ⟨_, le_rfl, range, fun _ => passed⟩
  have drawn : Drawn earlier limit [] process :=
    fun _ => ⟨sound, room, fun name member => by cases member⟩
  exact (StoreCall.keeps_next (rules_drawn earlier bound) text drawn call
    (fun key entry same => absurd same (other key entry)) inside).1

theorem Kept.sound_call (kept : lives.Kept text) {call : StoreCall}
    (careful : lives.Careful text (.call call))
    (range : (next text (.call call) lives).InRange) :
    Sound lives.earlier (call.next text lives.process) := by
  cases call with
  | reserveLedger key entry => exact sound_reserve kept.sound careful
  | updateLedger key status externalId response errorType =>
      exact sound_update kept.sound key status externalId response errorType
  | _ =>
      exact sound_drawing kept.sound _ careful range
        fun _ _ same => by cases same

theorem Kept.next (lawful : text.Lawful) (kept : lives.Kept text) {move : Move}
    (admitted : lives.Admits text move) :
    (next text move lives).Kept text := by
  obtain ⟨careful, range⟩ := admitted
  cases move with
  | call call =>
      refine ⟨range, kept.sound_call careful range, ?_⟩
      intro body member
      obtain ⟨written, same, stored⟩ := kept.file body member
      exact ⟨written, same, stored.mono fun name drawn =>
        mem_grown (grown_next text call lives.process) drawn⟩
  | draw kind =>
      refine ⟨range, kept.sound.draw careful range kind, ?_⟩
      intro body member
      obtain ⟨written, same, stored⟩ := kept.file body member
      have grown : Grown lives.process lives.process :=
        ⟨List.prefix_rfl, Nat.le_refl _⟩
      exact ⟨written, same, stored.mono fun name drawn =>
        mem_grown (grown.draw kind) drawn⟩
  | save =>
      refine ⟨range, kept.sound, ?_⟩
      intro body member
      cases member
      exact ⟨lives.process.store, rfl, kept.sound.stored⟩
  | load =>
      cases saved : lives.file with
      | none =>
          simp only [Lifetimes.next, saved]
          exact kept
      | some body =>
          obtain ⟨written, same, stored⟩ := kept.file body saved
          subst same
          have file := kept.file
          rw [saved] at file
          simp only [Lifetimes.next, saved]
          cases read : decodeStore text (encodeStore text written) with
          | error error => exact ⟨kept.inRange, kept.sound, file⟩
          | ok store =>
              have known := stored.decodeStore lawful read
              exact ⟨kept.inRange, { kept.sound with stored := known }, file⟩
  | restart clock =>
      have same : lives.earlier ++ lives.process.issued ++
          (Process.start clock).issued = lives.issued := List.append_nil _
      refine ⟨range, ⟨Stored.new, ?_, ?_, ?_⟩, ?_⟩
      · simp only [Lifetimes.next, same]
        exact kept.sound.absent
      · simp only [Lifetimes.next, same]
        exact kept.sound.distinct
      · intro issued member
        cases member
      · intro body member
        obtain ⟨written, text, stored⟩ := kept.file body member
        refine ⟨written, text, ?_⟩
        simp only [Lifetimes.next, Lifetimes.issued, same]
        exact stored

theorem Kept.unique (kept : lives.Kept text) : lives.Unique :=
  ⟨kept.sound.absent, kept.sound.distinct⟩

theorem kept_start (clock : Nat → F64) : (start clock).Kept text where
  inRange := by
    change 1 ≤ 2 ^ 64
    norm_num
  sound := ⟨Stored.new, fun _ member => (by cases member), List.nodup_nil,
    fun _ member => by cases member⟩
  file _ member := by cases member

end

end Lifetimes

/-- While ids are drawn only above those that earlier processes have drawn,
every id is new to the store and to all that were drawn before it. -/
theorem ids_unique {text : F64Text} (lawful : text.Lawful) (clock : Nat → F64)
    {moves : List Lifetimes.Move}
    (admitted : Each (Lifetimes.next text) (Lifetimes.Admits text)
      (.start clock) moves) :
    Always (Lifetimes.next text) Lifetimes.Unique (.start clock) moves := by
  have kept : Always (Lifetimes.next text) (Lifetimes.Kept text)
      (.start clock) moves :=
    admitted.always (fun _ _ holds admits => holds.next lawful admits)
      (Lifetimes.kept_start clock)
  exact kept.mono fun _ holds => holds.unique

/-- A store that is read has no part in the counter. -/
theorem Lifetimes.idCounter_load (text : F64Text) (lives : Lifetimes) :
    (Lifetimes.next text .load lives).process.idCounter =
      lives.process.idCounter := by
  simp only [Lifetimes.next]
  split
  · rename_i body saved
    cases decodeStore text body <;> rfl
  · rfl

theorem Lifetimes.InRange.of_eq {lives : Lifetimes} {number : Nat}
    (counted : lives.process.idCounter = number) (small : number ≤ 2 ^ 64) :
    lives.InRange := by
  unfold Lifetimes.InRange
  rwa [counted]

/-- A run is created and saved, and a later process loads it. -/
def reopening : List Lifetimes.Move :=
  [.call (.createRun State.new), .save, .restart midnight, .load]

theorem ids_unique_reopening :
    Always (Lifetimes.next bitText) Lifetimes.Unique (.start midnight)
      reopening := by
  have counted : ((StoreCall.createRun State.new).next bitText
      (.start midnight)).idCounter = 6 := by
    decide +kernel
  apply ids_unique bitText_lawful midnight
  refine ⟨⟨.inr fun _ member => ?_, ?_⟩, ⟨trivial, ?_⟩, ⟨trivial, ?_⟩,
    ⟨trivial, ?_⟩, trivial⟩
  · cases member
  · apply Lifetimes.InRange.of_eq counted
    norm_num
  · apply Lifetimes.InRange.of_eq counted
    norm_num
  · apply @Lifetimes.InRange.of_eq _ 1 rfl
    norm_num
  · apply @Lifetimes.InRange.of_eq _ 1
      ((Lifetimes.idCounter_load bitText _).trans rfl)
    norm_num

/-- A run that is created after a restart has the id of the run that is
there. -/
theorem restart_repeats_ids :
    ¬∀ moves, Always (Lifetimes.next bitText) Lifetimes.Unique
      (.start midnight) moves := by
  intro every
  let first := (StoreCall.createRun State.new).next bitText (.start midnight)
  have read : decodeStore bitText (encodeStore bitText first.store) =
      .ok first.store :=
    decodeStore_encodeStore bitText_lawful
      (keyed_next MemoryStore.keyed_new trivial)
      (by constructor <;> decide +kernel)
  have last := (every (reopening ++ [.call (.createRun State.new)])).last.absent
  have taken : ∃ issued ∈ ((StoreCall.createRun State.new).next bitText
      { Process.start midnight with store := first.store }).issued,
      issued.present = true := by
    decide +kernel
  obtain ⟨issued, drawn, present⟩ := taken
  have absent : issued.present = false := by
    apply last
    simp only [reopening, List.cons_append, List.nil_append, runFrom_cons,
      runFrom_nil, Lifetimes.next, Lifetimes.start]
    rw [read]
    exact List.mem_append_right _ drawn
  rw [absent] at present
  cases present

end AgentLedger.Rust
