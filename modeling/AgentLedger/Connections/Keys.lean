import AgentLedger.Connections.Commits

namespace AgentLedger

open Foundation Connections

/-! What a key stands for when several connections ask for it at once: one
approval request, and one reservation in the ledger. -/

namespace Store

/-- `approval_key` is UNIQUE. -/
def KeysApart (store : Store) : Prop :=
  ∀ first ∈ store.approvals.rows, ∀ second ∈ store.approvals.rows,
    first.approvalKey = second.approvalKey → first = second

theorem keysApart_empty : Store.empty.KeysApart := by
  intro first member
  cases member

theorem KeysApart.write {store : Store} (apart : store.KeysApart)
    (statement : Write) : (store.write statement).2.KeysApart := by
  cases statement with
  | insertApproval row =>
      simp only [Store.write]
      split
      case isTrue => exact apart
      case isFalse fresh =>
          split
          case h_1 approvals inserted =>
              have rows := (Table.insert?_eq_some_iff.mp inserted).2
              have other : ∀ held ∈ store.approvals.rows,
                  held.approvalKey ≠ row.approvalKey := by
                intro held member same
                exact fresh (List.any_eq_true.mpr
                  ⟨held, member, decide_eq_true same⟩)
              intro first firstIn second secondIn same
              change first ∈ approvals.rows at firstIn
              change second ∈ approvals.rows at secondIn
              rw [rows, List.mem_append, List.mem_singleton] at firstIn secondIn
              rcases firstIn with firstIn | rfl <;>
                rcases secondIn with secondIn | rfl
              · exact apart first firstIn second secondIn same
              · exact absurd same (other first firstIn)
              · exact absurd same.symm (other second secondIn)
              · rfl
          case h_2 => exact apart
  | decideApproval approvalId status approvedBy decisionReason =>
      intro first firstIn second secondIn same
      obtain ⟨firstHeld, firstBefore, firstNow⟩ := List.mem_map.mp firstIn
      obtain ⟨secondHeld, secondBefore, secondNow⟩ :=
        List.mem_map.mp secondIn
      have firstKey : first.approvalKey = firstHeld.approvalKey := by
        rw [← firstNow]
        split <;> rfl
      have secondKey : second.approvalKey = secondHeld.approvalKey := by
        rw [← secondNow]
        split <;> rfl
      have held := apart firstHeld firstBefore secondHeld secondBefore
        (firstKey.symm.trans (same.trans secondKey))
      rw [← firstNow, ← secondNow, held]
  | insertRun row =>
      simp only [Store.write]
      split <;> exact apart
  | insertStep row =>
      simp only [Store.write]
      split
      · split <;> exact apart
      · exact apart
  | insertEvent row =>
      simp only [Store.write]
      split <;> exact apart
  | insertLedger row =>
      simp only [Store.write]
      split <;> exact apart
  | _ => exact apart

theorem approvalByKey_some {store : Store} {key : String} {row : ApprovalRow}
    (found : Store.query (.approvalByKey key) store = some row) :
    row ∈ store.approvals.rows ∧ row.approvalKey = key :=
  ⟨List.mem_of_find?_eq_some found, by simpa using List.find?_some found⟩

/-- The row of an approval request that was answered is still there. -/
def Answers (store : Store) (key : String) (row : ApprovalRow) : Prop :=
  row.approvalKey = key ∧ ∃ held,
    store.approvals.get? row.approvalId = some held ∧ row.SameRequest held

/-- The row of a ledger key that was answered is still there. -/
def Reserves (store : Store) (key : String) (row : LedgerRow) : Prop :=
  ∃ held, store.ledger.get? key = some held ∧ row.SameReservation held

theorem answers_of_query {store : Store} {key : String} {row : ApprovalRow}
    (found : Store.query (.approvalByKey key) store = some row) :
    store.Answers key row := by
  obtain ⟨member, same⟩ := approvalByKey_some found
  exact ⟨same, row, Table.get?_eq_some_iff.mpr ⟨member, rfl⟩, .refl row⟩

theorem Answers.persists {store later : Store} {key : String}
    {row : ApprovalRow} (answers : store.Answers key row)
    (persists : store.Persists later) : later.Answers key row := by
  obtain ⟨same, held, found, related⟩ := answers
  obtain ⟨final, foundFinal, relatedFinal⟩ := persists.approvals _ _ found
  exact ⟨same, final, foundFinal, relatedFinal.trans related⟩

theorem Reserves.persists {store later : Store} {key : String}
    {row : LedgerRow} (reserves : store.Reserves key row)
    (persists : store.Persists later) : later.Reserves key row := by
  obtain ⟨held, found, related⟩ := reserves
  obtain ⟨final, foundFinal, relatedFinal⟩ := persists.ledger _ _ found
  exact ⟨final, foundFinal, relatedFinal.trans related⟩

theorem Answers.same {store : Store} (apart : store.KeysApart) {key : String}
    {first second : ApprovalRow} (one : store.Answers key first)
    (two : store.Answers key second) : first.request = second.request := by
  obtain ⟨firstKey, firstHeld, foundFirst, sameFirst⟩ := one
  obtain ⟨secondKey, secondHeld, foundSecond, sameSecond⟩ := two
  have firstIn := (Table.get?_some foundFirst).1
  have secondIn := (Table.get?_some foundSecond).1
  have keys : firstHeld.approvalKey = secondHeld.approvalKey := by
    have firstKept : firstHeld.request.approvalKey =
        first.request.approvalKey := congrArg ApprovalRow.approvalKey sameFirst
    have secondKept : secondHeld.request.approvalKey =
        second.request.approvalKey :=
      congrArg ApprovalRow.approvalKey sameSecond
    exact firstKept.trans (firstKey.trans (secondKey.symm.trans
      secondKept.symm))
  have held := apart firstHeld firstIn secondHeld secondIn keys
  rw [← sameFirst, ← sameSecond, held]

/-- The INSERT of a row under a new key, and under one that is taken. -/
theorem write_insertLedger (store : Store) (row : LedgerRow) :
    (store.ledger.get? row.idempotencyKey = none ∧
      (store.write (.insertLedger row)).1 = true ∧
      (store.after (.insertLedger row)).ledger.get? row.idempotencyKey =
        some row) ∨
    (∃ held, store.ledger.get? row.idempotencyKey = some held) ∧
      store.write (.insertLedger row) = (false, store) := by
  cases found : store.ledger.get? row.idempotencyKey with
  | some held =>
      refine .inr ⟨⟨held, rfl⟩, ?_⟩
      simp only [write]
      split
      case h_1 inserted =>
          have absent := (Table.insert?_eq_some_iff.mp inserted).1
          rw [found] at absent
          cases absent
      case h_2 => rfl
  | none =>
      refine .inl ⟨rfl, ?_⟩
      simp only [after, write]
      split
      case h_1 inserted =>
          refine ⟨rfl, ?_⟩
          rw [Table.get?_of_insert? inserted, if_pos rfl]
      case h_2 refused =>
          exact absurd found (Table.insert?_eq_none_iff.mp refused)

end Store

/-- Two callers of one key are told of one row, and only the INSERT of the row
is answered with `None`. -/
@[reducible] def keyed : storeService.Contract where
  invariant := Store.KeysApart
  extra := fun _ before after => before.db.Persists after.db
  extra_refl := persists_idle
  extra_trans := persists_twice
  extra_of_db := persists_of_db
  admits := fun _ _ _ _ => True
  owes := fun thread call cmd world =>
    match call with
    | .reserveLedger args => world.journal thread = [] ∧ (cmd = .commit →
        world.db.ledger.get? args.idempotencyKey = none ∧
          ∃ row, (world.view thread).ledger.get? args.idempotencyKey =
            some row)
    | _ => True
  ends := fun thread call result world =>
    match call, result with
    | .requestApproval args, .ok row => world.db.Answers args.approvalKey row
    | .approvalForKey key, .ok (some row) => world.db.Answers key row
    | .reserveLedger _, .ok none => world.journal thread ≠ []
    | .reserveLedger args, .ok (some row) =>
        world.db.Reserves args.idempotencyKey row
    | _, _ => True

theorem keyed_within : keyed.Within Store.Persists :=
  fun _ _ _ persists => persists

section Threads

variable {thread : Tid} {world later : Connections sqlite}

theorem keyed_reserved {args : LedgerArgs} {row : LedgerRow}
    (reserves : world.db.Reserves args.idempotencyKey row) :
    keyed.Safe thread (.reserveLedger args) (.done (some row)) world :=
  Service.Contract.safe_done fun _ relied => reserves.persists relied.2

/-- The row that `reserve_ledger` inserts. -/
def LedgerArgs.reserved (args : LedgerArgs) (ledgerId : String) (ts : Int) :
    LedgerRow :=
  { ledgerId := ledgerId
    runId := args.runId
    sessionId := args.sessionId
    stepId := args.stepId
    toolName := args.toolName
    toolVersion := args.toolVersion
    toolCallId := args.toolCallId
    idempotencyKey := args.idempotencyKey
    causalToken := args.causalToken
    requestHash := args.requestHash
    requestRef := args.requestRef
    status := .reserved
    createdAt := ts }

theorem keyed_select {call : Call} {request : Query}
    {next : request.Answer → StoreM call.Result}
    (unbegun : Service.Unbegun thread world)
    (owes : ∀ later, Service.Unbegun thread later →
      keyed.owes thread call (.query request) later)
    (answered : ∀ later, Service.Unbegun thread later →
      world.db.Persists later.db →
      keyed.Safe thread call (next (Store.query request later.db)) later) :
    keyed.Safe thread call (.call (.query request) next) world :=
  unbegun.query keyed_within owes answered

theorem keyed_reserveLedger (args : LedgerArgs)
    (unbegun : Service.Unbegun thread world) :
    keyed.Safe thread (.reserveLedger args) (reserveLedger args) world := by
  have owes (cmd : sqlite.Command) (other : cmd ≠ .commit)
      (later : Connections sqlite) (here : Service.Unbegun thread later) :
      keyed.owes thread (.reserveLedger args) cmd later :=
    ⟨here.journal, fun same => absurd same other⟩
  apply keyed_select unbegun (owes _ (by simp))
  intro later here _
  cases found : Store.query (.ledger args.idempotencyKey) later.db with
  | some existing =>
      exact keyed_reserved ⟨existing, found, .refl existing⟩
  | none =>
      apply here.ask keyed_within (owes _ (by simp))
      intro ts later here _
      apply here.ask keyed_within (owes _ (by simp))
      intro ledgerId later here _
      apply Service.Contract.safe_write here.free
      intro base relied _
      have begun := here.relied relied.1
      refine ⟨owes _ (by simp) base begun, fun _ => ?_⟩
      let row := args.reserved ledgerId ts
      change keyed.InTransaction thread (.reserveLedger args) base
        (Program.tryCatch (Sql.withConn (insertOrRaise
            (Store.write (.insertLedger row) base.db).1 >>=
          fun _ => (.done none : StoreM (Option LedgerRow))))
          (onIntegrityError (select (.ledger args.idempotencyKey))))
        ⟨thread, (Store.write (.insertLedger row) base.db).2, _⟩
      rcases Store.write_insertLedger base.db row with
        ⟨absent, accepted, inserted⟩ | ⟨⟨held, taken⟩, refused⟩
      · rw [accepted]
        intro world opened holds
        have view := Service.Contract.view_open opened
        have grown : Store.Persists world.db (world.commit thread).db := by
          rw [commit_db, view, opened.db]
          exact Store.persists_write _ trivial
        refine ⟨⟨opened.journal.trans begun.journal, fun _ => ?_⟩,
          fun _ => ⟨⟨?_, ?_⟩, ?_⟩⟩
        · rw [opened.db, view]
          exact ⟨absent, row, inserted⟩
        · change Store.KeysApart (world.commit thread).db
          rw [commit_db, view, ← opened.db]
          exact holds.write _
        · exact fun other different => ⟨frame_commit different world, grown⟩
        · apply Service.Contract.safe_done
          intro later relied
          change later.journal thread ≠ []
          rw [relied.1.journal]
          simp [Connections.commit, opened.found]
      · rw [refused]
        intro world opened _
        refine ⟨⟨opened.journal.trans begun.journal, fun same => by cases same⟩,
          ?_⟩
        have here : Service.Unbegun thread (world.rollback thread) :=
          ⟨not_holds_rollback thread world,
            opened.journal.trans begun.journal⟩
        apply keyed_select here (owes _ (by simp))
        intro later here persists
        have stays : Store.Persists base.db later.db := by
          rw [← opened.db]
          exact persists
        obtain ⟨final, foundFinal, _⟩ := stays.ledger _ held taken
        have answer : Store.query (.ledger args.idempotencyKey) later.db =
            some final := foundFinal
        rw [answer]
        exact keyed_reserved ⟨final, foundFinal, .refl final⟩

/-- The row that `request_approval` inserts. -/
def ApprovalArgs.requested (args : ApprovalArgs) (approvalId : String) :
    ApprovalRow :=
  { approvalId := approvalId
    approvalKey := args.approvalKey
    runId := args.runId
    sessionId := args.sessionId
    stepId := args.stepId
    toolName := args.toolName
    riskLevel := args.riskLevel
    status := .pending
    reason := args.reason
    requestHash := args.requestHash
    requestRef := args.requestRef
    requestedBy := args.requestedBy }

theorem keyed_answered {args : ApprovalArgs} {row : ApprovalRow}
    (answers : world.db.Answers args.approvalKey row) :
    keyed.Safe thread (.requestApproval args) (.done row) world :=
  Service.Contract.safe_done fun _ relied => answers.persists relied.2

theorem keyed_requestApproval (args : ApprovalArgs)
    (unbegun : Service.Unbegun thread world) :
    keyed.Safe thread (.requestApproval args) (requestApproval args)
      world := by
  have owes (cmd : sqlite.Command) (later : Connections sqlite)
      (_ : Service.Unbegun thread later) :
      keyed.owes thread (.requestApproval args) cmd later := trivial
  have answered {next : Option ApprovalRow → StoreM ApprovalRow}
      (missing : next none = .raise
        (.runtimeError "approval request was not created"))
      (held : ∀ row, next (some row) = .done row)
      {early : Connections sqlite} (free : ¬ Holds thread early) :
      keyed.Safe thread (.requestApproval args)
        (.call (.query (.approvalByKey args.approvalKey)) next) early := by
    apply Service.Contract.safe_query free
    intro later relied _ _
    refine ⟨trivial, ?_⟩
    change keyed.Safe thread (.requestApproval args) (next (Store.query
      (.approvalByKey args.approvalKey) later.db)) _
    cases found : Store.query (.approvalByKey args.approvalKey) later.db with
    | none =>
        rw [missing]
        exact Service.Contract.safe_raise fun _ _ => trivial
    | some row =>
        rw [held]
        exact keyed_answered (Store.answers_of_query found)
  apply keyed_select unbegun (owes _)
  intro later here _
  cases found : Store.query (.approvalByKey args.approvalKey) later.db with
  | some existing => exact keyed_answered (Store.answers_of_query found)
  | none =>
      apply here.ask keyed_within (owes _)
      intro ts later here _
      apply here.ask keyed_within (owes _)
      intro approvalId later here _
      apply Service.Contract.safe_write here.free
      intro base relied _
      refine ⟨trivial, fun _ => ?_⟩
      let row := args.requested approvalId
      change keyed.InTransaction thread (.requestApproval args) base
        (Program.tryCatch (Sql.withConn (insertOrRaise
            (Store.write (.insertApproval row) base.db).1))
          (onIntegrityError (.done ())) >>= fun _ =>
            (.call (.query (.approvalByKey args.approvalKey)) _ :
              StoreM ApprovalRow))
        ⟨thread, (Store.write (.insertApproval row) base.db).2, _⟩
      cases (Store.write (.insertApproval row) base.db).1 with
      | true =>
          intro world opened holds
          have view := Service.Contract.view_open opened
          have grown : Store.Persists world.db (world.commit thread).db := by
            rw [commit_db, view, opened.db]
            exact Store.persists_write _ trivial
          refine ⟨trivial, fun _ => ⟨⟨?_, ?_⟩, ?_⟩⟩
          · change Store.KeysApart (world.commit thread).db
            rw [commit_db, view, ← opened.db]
            exact holds.write _
          · exact fun other different => ⟨frame_commit different world, grown⟩
          · exact answered rfl (fun _ => rfl) (not_holds_commit thread world)
      | false =>
          intro world opened _
          exact ⟨trivial,
            answered rfl (fun _ => rfl) (not_holds_rollback thread world)⟩

theorem keyed_approvalForKey (approvalKey : String)
    (unbegun : Service.Unbegun thread world) :
    keyed.Safe thread (.approvalForKey approvalKey)
      (approvalForKey approvalKey) world := by
  apply keyed_select unbegun fun _ _ => trivial
  intro later here _
  apply Service.Contract.safe_done
  intro final relied
  cases found : Store.query (.approvalByKey approvalKey) later.db with
  | none => trivial
  | some row => exact (Store.answers_of_query found).persists relied.2

theorem keyed_others {call : Call}
    (owes : ∀ cmd world, keyed.owes thread call cmd world)
    (ends : ∀ result world, keyed.ends thread call result world)
    (free : ¬ Holds thread world) :
    keyed.Safe thread call call.body world := by
  refine @Service.Contract.safe_of_uses _ _ keyed thread call _
    (fun base work _ => Store.Persists base work ∧ Store.KeysApart work)
    (fun base apart => ⟨.refl base, apart⟩) ?_ ?_ owes ends _ call.body_uses
    world ?_
  · rintro base work _ statement _ ⟨persists, apart⟩ may
    exact ⟨persists.trans
      (Store.persists_write work (Call.advances_of_issues may)),
      apart.write statement⟩
  · rintro later writer _ found own ⟨persists, apart⟩ _
    have view := view_of_held found own
    refine ⟨?_, fun other different =>
      ⟨frame_commit different later, ?_⟩⟩
    · change Store.KeysApart (later.commit thread).db
      rw [commit_db, view]
      exact apart
    · change Store.Persists later.db (later.commit thread).db
      rw [commit_db, view]
      exact persists
  · intro writer found own
    exact absurd ⟨writer, found, own⟩ free

end Threads

theorem keyed_sound : keyed.contract.Sound := by
  apply Service.Contract.sound
  intro thread call world _ free journal
  have unbegun : Service.Unbegun thread world := ⟨free, journal⟩
  cases call with
  | requestApproval args => exact keyed_requestApproval args unbegun
  | approvalForKey approvalKey =>
      exact keyed_approvalForKey approvalKey unbegun
  | reserveLedger args => exact keyed_reserveLedger args unbegun
  | _ => exact keyed_others (fun _ _ => trivial) (fun _ _ => trivial) free

/-- A run from this store. -/
def ran (store : Store) (clock : Int)
    (labels : List storeService.machine.Label) : Connected :=
  runFrom Machine.step (Machine.initial (@opened sqlite store clock)) labels

theorem keyed_good_step {config : Connected}
    (label : storeService.machine.Label) (good : keyed.contract.Good config) :
    keyed.contract.Good (Machine.step label config) :=
  Service.Contract.good_step keyed_sound (fun _ _ _ _ => trivial) label good

theorem keyed_good {store : Store} (apart : store.KeysApart) (clock : Int)
    (labels : List storeService.machine.Label) :
    keyed.contract.Good (ran store clock labels) :=
  Service.Contract.good_run keyed_sound (fun _ _ _ _ => trivial) apart clock
    labels

/-- However many connections ask for the approval of one key, whenever they ask
and whatever else is going on: all are told of the same request. -/
theorem one_request_for_key {store : Store} (apart : store.KeysApart)
    (clock : Int) (before later : List storeService.machine.Label)
    {first second : Tid} {one two : ApprovalArgs} {row other : ApprovalRow}
    (asked : (ran store clock before).threads first =
      some ⟨.requestApproval one, .done row⟩)
    (askedLater : (ran store clock (before ++ later)).threads second =
      some ⟨.requestApproval two, .done other⟩)
    (same : one.approvalKey = two.approvalKey) :
    row.request = other.request := by
  have early : (ran store clock before).world.db.Answers one.approvalKey row :=
    (keyed_good apart clock before).returned keyed_sound asked
  have late : (ran store clock (before ++ later)).world.db.Answers
      two.approvalKey other :=
    (keyed_good apart clock (before ++ later)).returned keyed_sound askedLater
  have kept := early.persists (persisting.between store clock before later)
  exact kept.same (keyed_good apart clock (before ++ later)).invariant
    (same ▸ late)

/-- The step answers a call of `reserve_ledger` for this key with `None`. -/
def ToldNone (key : String) (config : Connected)
    (label : storeService.machine.Label) : Prop :=
  ∃ args : LedgerArgs, args.idempotencyKey = key ∧
    (∃ cmd next, config.threads label.thread =
      some ⟨.reserveLedger args, .call cmd next⟩) ∧
    (Machine.step label config).threads label.thread =
      some ⟨.reserveLedger args, .done none⟩

/-- Only the COMMIT of the row is answered so. -/
theorem ToldNone.reserves {key : String} {config : Connected}
    {label : storeService.machine.Label}
    (good : keyed.contract.Good config) (told : ToldNone key config label) :
    config.world.db.ledger.get? key = none ∧
      ∃ row, (Machine.step label config).world.db.ledger.get? key =
        some row := by
  obtain ⟨args, rfl, ⟨cmd, next, running⟩, ended⟩ := told
  have stepped := keyed_good_step label good
  cases label with
  | spawn thread call =>
      simp only [Machine.step, Machine.Label.thread] at running ended
      rw [running] at ended
      simp only [Option.all_some, Machine.Thread.ended, Bool.false_eq_true,
        if_false] at ended
      rw [running] at ended
      cases ended
  | crash thread =>
      simp [Machine.step, Machine.Label.thread] at ended
  | act thread input =>
      simp only [Machine.Label.thread] at running ended
      obtain ⟨unbegun, committing⟩ := good.owes keyed_sound running
      have journal := stepped.returned keyed_sound ended
      cases acted : Connections.act thread cmd input config.world with
      | none =>
          simp only [Machine.step, running, Machine.resume, acted] at ended
          cases ended
      | some outcome =>
          obtain ⟨reply, after⟩ := outcome
          have moved := Machine.step_act running acted
          rw [moved] at journal ⊢
          by_cases other : cmd = .commit
          · subst other
            cases acted
            obtain ⟨absent, row, found⟩ := committing rfl
            rw [commit_db]
            exact ⟨absent, row, found⟩
          · exact absurd ((congrFun (act_journal acted other) thread).trans
              unbegun) journal

/-- However many connections reserve one key, whenever they ask, whatever else
is going on and whichever of them die: at most one call is answered `None`. -/
theorem reserved_once {store : Store} (apart : store.KeysApart) (clock : Int)
    (before middle : List storeService.machine.Label)
    {first second : storeService.machine.Label} {key : String}
    (told : ToldNone key (ran store clock before) first) :
    ¬ ToldNone key (ran store clock (before ++ first :: middle)) second := by
  intro toldAgain
  obtain ⟨_, row, found⟩ := told.reserves (keyed_good apart clock before)
  obtain ⟨absent, _⟩ := toldAgain.reserves (keyed_good apart clock _)
  have persists := persisting.between store clock (before ++ [first]) middle
  rw [runFrom_append] at persists
  obtain ⟨final, present, _⟩ := persists.ledger key row found
  rw [List.append_assoc] at present
  have taken : (ran store clock (before ++ first :: middle)).world.db.ledger.get?
      key = some final := present
  rw [absent] at taken
  cases taken

/-- Both connections find nothing under their key; the first one inserts. -/
def racedKey (call : Call) (first second : Nat) :
    List storeService.machine.Label :=
  let acts (thread : Tid) (count : Nat) :
      List storeService.machine.Label :=
    List.replicate count (.act thread ⟨0, toString thread, 0⟩)
  [.spawn 0 call, .spawn 1 call] ++ acts 0 1 ++ acts 1 1 ++ acts 0 first ++
    acts 1 second

def refundApproval : ApprovalArgs :=
  { approvalKey := "refund"
    runId := "run-1"
    stepId := "step-1"
    toolName := "refund"
    riskLevel := "high"
    requestHash := ""
    requestRef := "" }

def refundReservation : LedgerArgs :=
  { runId := "run-1"
    stepId := "step-1"
    toolName := "refund"
    toolVersion := "1"
    toolCallId := "call-1"
    idempotencyKey := "refund"
    causalToken := .null
    requestHash := ""
    requestRef := "" }

theorem raced_requests_agree :
    let config := ran .empty 0
      (racedKey (.requestApproval refundApproval) 5 5 ++ [])
    ∃ row other,
      config.threads 0 =
        some ⟨.requestApproval refundApproval, .done row⟩ ∧
      config.threads 1 =
        some ⟨.requestApproval refundApproval, .done other⟩ ∧
      row.request = other.request := by
  refine ⟨refundApproval.requested "0", refundApproval.requested "0", rfl, rfl,
    ?_⟩
  exact @one_request_for_key _ Store.keysApart_empty 0
    (racedKey (.requestApproval refundApproval) 5 5) [] 0 1 refundApproval
    refundApproval _ _ rfl rfl rfl

/-- The second connection is told of the row of the first. -/
theorem raced_reservation_kept :
    ¬ ToldNone "refund" (ran .empty 0
      (racedKey (.reserveLedger refundReservation) 3 0 ++
        .act 0 ⟨0, "", 0⟩ :: List.replicate 3 (.act 1 ⟨0, "1", 0⟩)))
      (.act 1 ⟨0, "", 0⟩) :=
  reserved_once Store.keysApart_empty 0 _ _
    ⟨refundReservation, rfl, ⟨_, _, rfl⟩, rfl⟩

end AgentLedger
