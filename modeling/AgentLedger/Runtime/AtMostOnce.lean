import AgentLedger.Runtime.Ownership

namespace AgentLedger

open Foundation

/-! A call of the gateway from beginning to end, and how often a run executes
under one key. -/

variable {bridge : ExecutionEvidenceBridge} {reliable : Prop}

/-! ### The gateway -/

section Gateway

variable {thread : Tid} {ctx : AgentContext} {toolName : String} {args : Json}
  {world : World}

open ToolGateway

private theorem routine_bystands (gateway : ToolGateway) :
    gateway.Routine Bystands := by
  constructor
  · intro call isAside
    cases call with
    | updateLedger update => cases isAside
    | resolveLedger runId update resolvedBy reason => cases isAside
    | _ => rfl
  · intro value
    trivial
  · intro kind
    trivial

section Rules

variable {α : Type} {task : Task} {fact : World → Prop}
  {post : α → World → Prop} {failed : PyError → World → Prop}

private theorem wp_bystands
    (stable : ∀ before after, LeavesKey thread before after → fact before →
      fact after) {program : RuntimeM α} (uses : program.Uses Bystands)
    (holds : fact world) (value : ∀ result world, fact world →
      post result world)
    (error : ∀ error world, fact world → failed error world) :
    (taking bridge reliable).Wp thread task program post failed world := by
  have kept := Machine.Contract.wp_of_uses
    (fun before after leaves _ => stable before after leaves)
    (uses.mono fun cmd => @keeps_of_bystands bridge reliable thread task fact
      stable cmd) holds
  exact kept.mono value error

private theorem wp_idle {program : RuntimeM α}
    (uses : program.Uses Bystands) :
    (taking bridge reliable).Wp thread task program (fun _ _ => True)
      (fun _ _ => True) world := by
  have nothing (before after : World) (_ : LeavesKey thread before after)
      (_ : True) : True := trivial
  apply wp_bystands nothing uses trivial
  · intro _ _ _
    trivial
  · intro _ _ _
    trivial

private theorem duty_stable (engaged : Option String) (before after : World)
    (leaves : LeavesKey thread before after)
    (duty : Duty thread task engaged before) :
    Duty thread task engaged after :=
  duty.congr leaves.duty

private theorem engaged_stable (key : String) (status : LedgerStatus)
    (used : Bool) (before after : World)
    (leaves : LeavesKey thread before after)
    (fact : Engaged thread task key status used before) :
    Engaged thread task key status used after :=
  fact.leaves leaves

end Rules

/-- What the handler finds: the caller's row, which has not succeeded if the
store is reliable. -/
def Troubled (reliable : Prop) (thread : Tid) (task : Task) (key : String)
    (world : World) : Prop :=
  ∃ status used, Engaged thread task key status used world ∧
    (reliable → status = .running)

private theorem alone_of_engaged {task : Task} {key : String}
    {status : LedgerStatus} {used : Bool} (owned : Owned world)
    (fact : Engaged thread task key status used world) (other : Tid)
    (different : other ≠ thread) : world.engagedOf other ≠ some key := by
  intro at_
  exact different (owned.alone other thread key at_ fact.duty.engagedOf)

private theorem wp_store {α : Type} {task : Task} {call : Call}
    {next : call.Result → RuntimeM α} {post : α → World → Prop}
    {failed : PyError → World → Prop} {fact : World → Prop}
    (stable : ∀ before after, LeavesKey thread before after → fact before →
      fact after) (holds : fact world)
    (owed : ∀ later, fact later →
      (taking bridge reliable).owes thread task (.store call) later)
    (refused : ∀ error input later,
      (taking bridge reliable).admits thread task (.store call) input later →
      input.fault = some error → fact later → failed error later)
    (performed : ∀ input later,
      (taking bridge reliable).admits thread task (.store call) input later →
      input.fault = none → Owned later → fact later →
      (taking bridge reliable).Guarantees thread later
          (later.perform thread call input.moment).2 ∧
        (taking bridge reliable).Wp thread task
          (orRaise (call.perform input.moment later.store).1 >>= next) post
          failed (later.perform thread call input.moment).2) :
    (taking bridge reliable).Wp thread task (store call >>= next) post failed
      world := by
  intro later leaves owned
  have current := stable world later leaves holds
  refine ⟨owed later current, ?_⟩
  intro input admitted reply after acted
  rcases World.act_store acted with ⟨error, fault, answer, same⟩ |
    ⟨faultless, answer, same⟩
  · rw [answer, same]
    exact ⟨(Spares.refl later).guarantees owned,
      refused error input later admitted fault current⟩
  · rw [answer, same]
    exact performed input later admitted faultless owned current

private theorem wp_engage {request : Request} {task : Task}
    (inside : task = .callTool ctx toolName args)
    (duty : Duty thread task none world)
    (present : (world.store.ledgerRow? request.key).isSome = true)
    {next : Unit → RuntimeM Json} {post : Json → World → Prop}
    {failed : PyError → World → Prop}
    (refused : ∀ error world, failed error world)
    (goes : ∀ world, Engaged thread task request.key .running false world →
      (taking bridge reliable).Wp thread task (next ()) post failed world) :
    (taking bridge reliable).Wp thread task
      (store (.updateLedger { idempotencyKey := request.key, status := .running })
        >>= next) post failed world := by
  have stable (before after : World) (leaves : LeavesKey thread before after)
      (fact : Duty thread task none before ∧
        (before.store.ledgerRow? request.key).isSome = true) :
      Duty thread task none after ∧
        (after.store.ledgerRow? request.key).isSome = true :=
    ⟨fact.1.congr leaves.duty, leaves.present request.key fact.2⟩
  apply wp_store stable ⟨duty, present⟩
  · intro later _ update same closes
    cases same
    rw [inside] at closes
    cases closes
  · intro error _ later _ _ _
    exact refused error later
  · intro input later admitted faultless owned fact
    obtain ⟨row, found⟩ := Option.isSome_iff_exists.mp fact.2
    have undisputed := admitted.1 _ rfl faultless
    rw [inside, LedgerUpdate.undisputed, LedgerUpdate.closes, Bool.false_or,
      found] at undisputed
    obtain ⟨free, unspent⟩ := unowned_of_vacant owned found undisputed
    have engaged := duty_perform_own fact.1
      (.updateLedger { idempotencyKey := request.key, status := .running })
      input.moment
    rw [inside] at engaged
    constructor
    · apply Touches.guarantees owned
      apply touches_of_update owned found
      · intro other _
        exact free other
      · intro _
        rfl
      · intro key different at_
        rw [engaged.engagedOf] at at_
        exact absurd (Option.some.inj at_).symm different
      · intro known
        rw [unspent] at known
        cases known
    · apply goes
      constructor
      · rw [inside]
        exact engaged
      · exact row_update found
      · rw [history_update]
        exact unspent

private theorem wp_close {update : LedgerUpdate} {task : Task}
    {before : LedgerStatus} {used : Bool}
    (closes : update.closes task = true)
    (running : reliable → before = .running)
    (fact : Engaged thread task update.idempotencyKey before used world)
    {next : Unit → RuntimeM Json} {post : Json → World → Prop}
    {failed : PyError → World → Prop}
    (refused : ∀ error world,
      Engaged thread task update.idempotencyKey before used world →
      failed error world)
    (goes : ∀ world, (update.status = .succeeded →
        Engaged thread task update.idempotencyKey .succeeded used world) →
      (taking bridge reliable).Wp thread task (next ()) post failed world) :
    (taking bridge reliable).Wp thread task
      (store (.updateLedger update) >>= next) post failed world := by
  have inside : ∃ ctx toolName args, task = .callTool ctx toolName args := by
    cases task with
    | callTool ctx toolName args => exact ⟨ctx, toolName, args, rfl⟩
    | _ => cases closes
  have closing : update.status = .succeeded ∨
      update.status = .pendingVerification := by
    obtain ⟨ctx, toolName, args, same⟩ := inside
    rw [same, LedgerUpdate.closes] at closes
    cases status : update.status
    all_goals simp_all
  apply wp_store (engaged_stable update.idempotencyKey before used) fact
  · intro later fact other same _
    cases same
    refine ⟨fact.duty.engagedOf, ?_⟩
    intro trusted row found
    obtain ⟨present, here, status⟩ := fact.row
    rw [found] at here
    cases here
    exact status.trans (running trusted)
  · intro error _ later _ _ fact
    exact refused error later fact
  · intro input later _ _ owned fact
    obtain ⟨row, found, status⟩ := fact.row
    have engaged := duty_perform_own fact.duty (.updateLedger update)
      input.moment
    obtain ⟨ctx, toolName, args, inside⟩ := inside
    rw [inside] at engaged
    simp only [Activity.engagedAfter] at engaged
    constructor
    · apply Touches.guarantees owned
      apply touches_of_update owned found
      · exact alone_of_engaged owned fact
      · intro at_
        rcases closing with succeeded | pending
        · rw [succeeded]
          rfl
        · rw [engaged.engagedOf, pending] at at_
          cases at_
      · intro key different at_
        rcases closing with succeeded | pending
        · rw [engaged.engagedOf, succeeded] at at_
          exact absurd (Option.some.inj at_).symm different
        · rw [engaged.engagedOf, pending] at at_
          cases at_
      · intro _
        rcases closing with succeeded | pending
        · rw [succeeded]
          rfl
        · rw [pending]
          rfl
    · apply goes
      intro succeeded
      constructor
      · rw [succeeded] at engaged
        rw [inside]
        exact engaged
      · rw [← succeeded]
        exact row_update found
      · rw [history_update]
        exact fact.history

/-- What is done once the row has succeeded fails only where the store does. -/
private theorem wp_succeeded {α : Type} {task : Task} {key : String}
    {used : Bool} {call : Call} (bystands : call.ledgerUpdate = none)
    (answers : ∀ (moment : Moment) (store : Store),
      ∃ value, (call.perform moment store).1 = .ok value)
    (fact : Engaged thread task key .succeeded used world)
    {next : call.Result → RuntimeM α} {post : α → World → Prop}
    (goes : ∀ value world, Engaged thread task key .succeeded used world →
      (taking bridge reliable).Wp thread task (next value) post
        (fun _ => Troubled reliable thread task key) world) :
    (taking bridge reliable).Wp thread task (store call >>= next) post
      (fun _ => Troubled reliable thread task key) world := by
  apply wp_store (engaged_stable key .succeeded used) fact
  · intro later _ update same
    cases same
    cases bystands
  · intro error input later admitted fault fact
    refine ⟨.succeeded, used, fact, ?_⟩
    intro trusted
    obtain ⟨row, found, status⟩ := fact.row
    have faultless := admitted.2 trusted key row fact.duty.engagedOf found status
    rw [faultless] at fault
    cases fault
  · intro input later _ faultless owned fact
    have acted : World.act thread (.store call) input later =
        some (later.perform thread call input.moment) := by
      simp only [World.act, faultless]
    have unconcerned : Bystands (.store call) := bystands
    have spares := spares_of_bystands unconcerned acted
    obtain ⟨value, answer⟩ := answers input.moment later.store
    rw [answer]
    exact ⟨spares.guarantees owned,
      goes value _ (fact.leaves (spares.leaves owned thread))⟩

private theorem wp_invocation {α : Type} {task : Task} {request : Request}
    (managed : request.spec.managedSideEffect = true)
    (fact : Engaged thread task request.key .running false world)
    {cmd : Command} {next : cmd.Reply → RuntimeM α}
    (acts : ∀ input before reply after,
      World.act thread cmd input before = some (reply, after) →
      after = before.invoke thread request.invocation)
    (noUpdate : ∀ update, cmd ≠ .store (.updateLedger update))
    {post : α → World → Prop} {failed : PyError → World → Prop}
    (goes : ∀ reply world,
      Engaged thread task request.key .running true world →
      (taking bridge reliable).Wp thread task (next reply) post failed world) :
    (taking bridge reliable).Wp thread task (.call cmd next) post failed
      world := by
  intro later leaves owned
  have current := fact.leaves leaves
  constructor
  · intro update same
    exact absurd same (noUpdate update)
  · intro input _ reply after acted
    obtain ⟨row, found, status⟩ := current.row
    have history : after.history =
        later.history ++ [.executed request.key] := by
      rw [acts input later reply after acted, World.invoke]
      exact if_pos managed
    have duties (other : Tid) : (after.activities other).map Activity.duty =
        (later.activities other).map Activity.duty := by
      rw [acts input later reply after acted]
      by_cases same : other = thread
      · subst same
        rw [World.invoke_own, Option.map_map]
        rfl
      · rw [World.invoke_other same]
    have entries : after.store = later.store := by
      rw [acts input later reply after acted]
      rfl
    constructor
    · refine Touches.guarantees owned
        (?_ : Touches thread request.key later after)
      constructor
      · intro other _
        exact duties other
      · intro other _
        rw [entries]
      · refine ⟨row, ?_, ?_, ?_⟩
        · rw [entries]
          exact found
        · intro _
          rw [status]
          rfl
        · intro _
          rw [status]
          rfl
      · intro key _ at_
        rwa [engagedOf_of_duties (duties thread)] at at_
      · exact alone_of_engaged owned current
      · intro other different
        rw [history, spent_executed, decide_eq_false (Ne.symm different),
          Bool.or_false]
      · rw [history]
        apply owned.once.append
        intro key same
        cases same
        exact current.history
    · apply goes
      constructor
      · exact current.duty.congr (duties thread)
      · rw [entries]
        exact current.row
      · rw [history, spent_executed, decide_eq_true rfl, Bool.or_true]

/-- The tool's function runs at most once, and then the key is spent. -/
private theorem wp_executeTool {task : Task} {request : Request}
    (gateway : ToolGateway)
    (managed : request.spec.managedSideEffect = true)
    (fact : Engaged thread task request.key .running false world) :
    (taking bridge reliable).Wp thread task (gateway.executeTool request)
      (fun _ => Engaged thread task request.key .running true)
      (fun _ => Troubled reliable thread task request.key) world := by
  have troubled (used : Bool) (later : World)
      (fact : Engaged thread task request.key .running used later) :
      Troubled reliable thread task request.key later :=
    ⟨.running, used, fact, fun _ => rfl⟩
  have routine := routine_bystands gateway
  unfold executeTool
  simp only
  split
  · apply wp_invocation managed fact
    · intro input before reply after acted
      cases acted
      rfl
    · intro update same
      cases same
    · intro reply later fact
      cases reply with
      | ok value => exact fact
      | error error => exact troubled true later fact
  · split
    · exact troubled false world fact
    · apply Machine.Contract.Wp.bind
      apply wp_bystands (engaged_stable _ _ _) (routine.uses_report _ _) fact
      · intro _ later fact
        apply Machine.Contract.Wp.bind
        apply wp_invocation managed fact
        · intro input before reply after acted
          cases acted
          rfl
        · intro update same
          cases same
        · intro reply later fact
          cases reply with
          | error error => exact troubled true later fact
          | ok result =>
              apply Machine.Contract.Wp.bind
              apply wp_bystands (engaged_stable _ _ _)
                (routine.uses_report _ _) fact
              · intro _ later fact
                split
                · exact troubled true later fact
                · exact fact
              · intro _ later fact
                exact troubled true later fact
      · intro _ later fact
        exact troubled false later fact

private theorem wp_attempt {task : Task} {request : Request}
    (gateway : ToolGateway)
    (inside : task = .callTool ctx toolName args)
    (managed : request.spec.managedSideEffect = true)
    (fact : Engaged thread task request.key .running false world) :
    (taking bridge reliable).Wp thread task (gateway.attempt request)
      (fun _ _ => True) (fun _ _ => True) world := by
  have routine := routine_bystands gateway
  have troubled (used : Bool) (later : World)
      (fact : Engaged thread task request.key .running used later) :
      Troubled reliable thread task request.key later :=
    ⟨.running, used, fact, fun _ => rfl⟩
  have performs : (taking bridge reliable).Wp thread task
      (gateway.perform request) (fun _ _ => True)
      (fun _ => Troubled reliable thread task request.key) world := by
    unfold ToolGateway.perform
    apply Machine.Contract.Wp.bind
    apply (wp_executeTool gateway managed fact).mono
    · intro result later fact
      apply Machine.Contract.Wp.bind
      apply wp_bystands (engaged_stable _ _ _)
        (Routine.uses_validate _ _ _ _) fact
      · intro _ later fact
        apply Machine.Contract.Wp.bind
        apply wp_bystands (engaged_stable _ _ _)
          (routine.uses_putJson result) fact
        · intro written later fact
          simp only [managed, if_true]
          apply Machine.Contract.Wp.bind
          apply wp_bystands (engaged_stable _ _ _) (uses_orRaise _) fact
          · intro external later fact
            refine wp_close (by rw [inside]; rfl) (fun _ => rfl) fact ?_ ?_
            · intro _ later fact
              exact troubled true later fact
            · intro later succeeded
              have fact := succeeded rfl
              simp only [report, Program.bind_assoc]
              apply wp_succeeded rfl (fun _ _ => Store.perform_appendEvent _ _)
                fact
              intro _ later fact
              apply wp_succeeded rfl (fun _ _ => Store.perform_recordCost _)
                fact
              intro _ _ _
              trivial
          · intro _ later fact
            exact troubled true later fact
        · intro _ later fact
          exact troubled true later fact
      · intro _ later fact
        exact troubled true later fact
    · intro _ later troubled
      exact troubled
  apply Machine.Contract.Wp.tryCatch
  apply performs.mono
  · intro _ _ _
    trivial
  · intro error later troubled
    obtain ⟨status, used, fact, running⟩ := troubled
    simp only [onFailure, managed, if_true]
    refine wp_close (by rw [inside]; rfl) running fact ?_ ?_
    · intro _ _ _
      trivial
    · intro later _
      apply wp_idle
      exact (routine.uses_report _ _).bind fun _ => trivial

private theorem wp_callManaged {task : Task} {request : Request}
    (gateway : ToolGateway)
    (inside : task = .callTool ctx toolName args)
    (managed : request.spec.managedSideEffect = true)
    (duty : Duty thread task none world) :
    (taking bridge reliable).Wp thread task (gateway.callManaged request)
      (fun _ _ => True) (fun _ _ => True) world := by
  have routine := routine_bystands gateway
  have takesOver (later : World) (duty : Duty thread task none later)
      (present : (later.store.ledgerRow? request.key).isSome = true) :
      (taking bridge reliable).Wp thread task (gateway.takeOver request)
        (fun _ _ => True) (fun _ _ => True) later := by
    apply wp_engage inside duty present
    · intro _ _
      trivial
    · intro later fact
      exact wp_attempt gateway inside managed fact
  apply wp_store (duty_stable none) duty
  · intro later _ update same
    cases same
  · intro _ _ _ _ _ _
    trivial
  · intro input later _ faultless owned duty
    have acted : World.act thread (.store (.reserveLedger request.ledgerArgs))
        input later = some (later.perform thread _ input.moment) := by
      simp only [World.act, faultless]
    have unconcerned : Bystands (.store (.reserveLedger request.ledgerArgs)) :=
      rfl
    have spares := spares_of_bystands unconcerned acted
    have mine := duty.congr (spares.duty thread)
    refine ⟨spares.guarantees owned, ?_⟩
    cases held : later.store.ledgerRow? request.key with
    | none =>
        obtain ⟨answer, entries⟩ :=
          @Store.perform_reserveLedger_fresh later.store input.moment
            request.ledgerArgs held
        rw [answer]
        apply takesOver _ mine
        have here := congrFun entries request.key
        rw [show request.key = request.ledgerArgs.idempotencyKey from rfl,
          Function.update_self] at here
        exact Option.isSome_iff_exists.mpr ⟨_, here⟩
    | some row =>
        rw [@Store.perform_reserveLedger_found later.store input.moment
          request.ledgerArgs row held]
        have present := Option.isSome_iff_exists.mpr
          ⟨row, spares.entry request.key row held⟩
        simp only [orRaise, Program.bind_done]
        split
        · apply wp_idle
          exact routine.uses_replayed (fun _ => trivial) request row
        · trivial
        · trivial
        · trivial
        · exact takesOver _ mine present
        · exact takesOver _ mine present

private theorem wp_proceed {task : Task} (gateway : ToolGateway)
    (request : Request) (inside : task = .callTool ctx toolName args)
    (duty : Duty thread task none world) :
    (taking bridge reliable).Wp thread task (gateway.proceed request)
      (fun _ _ => True) (fun _ _ => True) world := by
  have routine := routine_bystands gateway
  have seen (ref : String) : Bystands (.getJson ref) := trivial
  unfold proceed
  simp only
  split
  · apply wp_idle
    apply (routine.uses_shadowResponse seen request).bind
    intro response
    exact (routine.uses_store rfl).bind fun _ => trivial
  · cases managed : request.spec.managedSideEffect with
    | true => exact wp_callManaged gateway inside managed duty
    | false =>
        apply wp_idle
        apply routine.uses_attempt
        · rw [managed]
          nofun
        · exact routine.uses_executeTool (fun _ => managed) fun _ _ => managed

private theorem safe_callTool (duty : Duty thread
      (.callTool ctx toolName args) none world) :
    (taking bridge reliable).Safe thread (.callTool ctx toolName args)
      (bridge.gateway.call ctx toolName args) world := by
  have routine := routine_bystands bridge.gateway
  have opens {α : Type} {program : RuntimeM α} {next : α → RuntimeM Json}
      {world : World} (uses : program.Uses Bystands)
      (duty : Duty thread (.callTool ctx toolName args) none world)
      (goes : ∀ value world,
        Duty thread (.callTool ctx toolName args) none world →
        (taking bridge reliable).Wp thread (.callTool ctx toolName args)
          (next value) (fun _ _ => True) (fun _ _ => True) world) :
      (taking bridge reliable).Wp thread (.callTool ctx toolName args)
        (program >>= next) (fun _ _ => True) (fun _ _ => True) world := by
    apply Machine.Contract.Wp.bind
    apply wp_bystands (duty_stable none) uses duty goes
    intro _ _ _
    trivial
  apply Machine.Contract.safe_of_wp
  refine Machine.Contract.Wp.mono (fun _ _ _ _ _ _ => trivial)
    (fun _ _ _ _ _ _ => trivial) (?_ : (taking bridge reliable).Wp _ _ _
      (fun _ _ => True) (fun _ _ => True) _)
  apply opens (routine.uses_open ctx toolName args) duty
  intro request _ duty
  apply opens (routine.uses_authorize request) duty
  intro _ _ duty
  apply opens (routine.uses_beforeToolCall ctx.runId) duty
  intro _ _ duty
  exact wp_proceed bridge.gateway request rfl duty

end Gateway

/-! ### Whole runs -/

private theorem guarantees_of_release {thread : Tid} {before after : World}
    (owned : Owned before) (store : after.store = before.store)
    (history : after.history = before.history)
    (others : ∀ other, other ≠ thread →
      after.activities other = before.activities other)
    (free : after.engagedOf thread = none) :
    (taking bridge reliable).Guarantees thread before after := by
  have earlier (other : Tid) (key : String)
      (at_ : after.engagedOf other = some key) :
      before.engagedOf other = some key := by
    by_cases same : other = thread
    · rw [same, free] at at_
      cases at_
    · rwa [World.engagedOf, others other same] at at_
  refine ⟨⟨?_, ?_, ?_, ?_⟩, ?_⟩
  · intro other key at_
    rw [store]
    exact owned.held other key (earlier other key at_)
  · intro first second key firstAt secondAt
    exact owned.alone first second key (earlier first key firstAt)
      (earlier second key secondAt)
  · rw [store, history]
    exact owned.spent
  · rw [history]
    exact owned.once
  · intro other different
    constructor
    · rw [others other different]
    · intro _ _
      rw [store]
    · intro _ _
      rw [history]
    · intro _ present
      rw [store]
      exact present

theorem taking_sound : (taking bridge reliable).Sound where
  rely_refl := fun _ _ => .refl
  rely_trans := fun _ _ _ _ early late => early.trans late
  start := by
    intro thread task world owned _
    have begun : Duty thread task none (world.start thread task) :=
      congrArg (Option.map Activity.duty)
        (Function.update_self thread _ world.activities)
    constructor
    · apply guarantees_of_release owned
      · rfl
      · rfl
      · intro other different
        exact World.start_other different task
      · exact begun.engagedOf
    · cases task with
      | callTool ctx toolName args => exact safe_callTool begun
      | _ =>
          apply safe_outside _ begun
          intro ctx toolName args same
          cases same
  crash := by
    intro thread world owned
    apply guarantees_of_release owned
    · rfl
    · rfl
    · intro other different
      exact World.crash_other different
    · exact congrArg (fun activity => Option.bind activity Activity.engaged)
        (Function.update_self thread _ world.activities)

theorem owned_opened : Owned World.opened := by
  constructor
  · intro thread key at_
    cases at_
  · intro first second key at_
    cases at_
  · intro key known
    cases known
  · intro before between after key split
    have lengths := congrArg List.length split
    simp [World.opened] at lengths

/-- The update of the ledger that a thread makes next. -/
def nextUpdate (config : (runtimeSystem bridge).Config) (thread : Tid) :
    Option (Task × LedgerUpdate) :=
  match config.threads thread with
  | some ⟨task, .call (.store (.updateLedger update)) _⟩ => some (task, update)
  | _ => none

/-- Whoever begins with a row finds it as `reserve_ledger` lets callers
pass. -/
def Undisputed (config : (runtimeSystem bridge).Config) :
    (runtimeSystem bridge).Label → Prop
  | .act thread input => input.fault.isNone = true →
      (nextUpdate config thread).all (fun next =>
        next.2.undisputed next.1 config.world.store) = true
  | _ => True

/-- Once the row of a caller has succeeded, no operation of the caller
fails. -/
def SucceedsToTheEnd (config : (runtimeSystem bridge).Config) :
    (runtimeSystem bridge).Label → Prop
  | .act thread input =>
      (config.world.engagedOf thread).any (fun key =>
        (config.world.store.ledgerRow? key).any fun row =>
          decide (row.status = .succeeded)) = true →
      input.fault.isNone = true
  | _ => True

instance (config : (runtimeSystem bridge).Config) :
    (label : (runtimeSystem bridge).Label) →
      Decidable (Undisputed config label)
  | .act _ _ => inferInstanceAs (Decidable (_ → _))
  | .spawn _ _ => inferInstanceAs (Decidable True)
  | .crash _ => inferInstanceAs (Decidable True)

instance (config : (runtimeSystem bridge).Config) :
    (label : (runtimeSystem bridge).Label) →
      Decidable (SucceedsToTheEnd config label)
  | .act _ _ => inferInstanceAs (Decidable (_ → _))
  | .spawn _ _ => inferInstanceAs (Decidable True)
  | .crash _ => inferInstanceAs (Decidable True)

theorem admitted_of_undisputed {config : (runtimeSystem bridge).Config}
    {label : (runtimeSystem bridge).Label}
    (undisputed : Undisputed config label)
    (lasting : reliable → SucceedsToTheEnd config label) :
    (taking bridge reliable).Admitted config label := by
  cases label with
  | act thread input =>
      simp only [Machine.Contract.Admitted]
      split
      · rename_i task cmd next running
        constructor
        · intro update same faultless
          cases same
          have met := undisputed (by rw [faultless]; rfl)
          simp only [nextUpdate, running, Option.all_some] at met
          exact met
        · intro trusted key row at_ found succeeded
          apply Option.isNone_iff_eq_none.mp
          apply lasting trusted
          simp [at_, found, succeeded]
      · trivial
  | _ => trivial

/-- In a run in which every caller that begins with a row of the ledger finds
it as `reserve_ledger` lets callers pass, an operator has resolved a key between
any two executions under it. -/
theorem at_most_once (bridge : ExecutionEvidenceBridge)
    (labels : List (runtimeSystem bridge).Label)
    (undisputed : Each Machine.step Undisputed (Machine.initial World.opened)
      labels) :
    AtMostOnce (runFrom Machine.step (Machine.initial World.opened)
      labels).world.history := by
  have good := undisputed.invariant
    (fun config label (good : (taking bridge False).Good config) met =>
      good.step taking_sound config label
        (admitted_of_undisputed met fun trusted => trusted.elim))
    (Machine.Contract.good_initial owned_opened)
  exact good.invariant.once

def chargeContext : AgentContext :=
  { runId := "run"
    sessionId := "sess"
    stepId := "step"
    agentRole := "Agent"
    leaseToken := "lease"
    attempt := 1
    stateVersion := 0 }

/-- A worker has claimed the step of a run. -/
def claimed : List (runtimeSystem chargeBridge).Label :=
  [.spawn 0 (.operation (.createRun none none none)),
    .act 0 (Surroundings.tick 0 id),
    .spawn 0 (.operation (.claimStep "worker" none 60)),
    .act 0 (Surroundings.tick 1 id)]

/-- A call of the tool, up to what `reserve_ledger` answers it. -/
def reserving (thread : Tid) : List (runtimeSystem chargeBridge).Label :=
  .spawn thread (.callTool chargeContext "charge" chargeArgs) ::
    List.replicate 6 (.act thread (Surroundings.tick 2 id))

/-- The caller takes the row over, and the tool's function runs. -/
def executing (thread : Tid) (tool : Except PyError Json) :
    List (runtimeSystem chargeBridge).Label :=
  [.act thread (Surroundings.tick 3 id),
    .act thread { Surroundings.tick 4 id with tool := tool }]

def chargeTimeout : PyError :=
  { cls := .timeoutError
    typeName := "TimeoutError"
    message := "" }

/-- The first call times out, and the operator finds that it had no effect. -/
def declined : List (runtimeSystem chargeBridge).Label :=
  claimed ++ reserving 1 ++ executing 1 (.error chargeTimeout) ++
    [.act 1 (Surroundings.tick 5 id),
      .act 1 (Surroundings.tick 6 id),
      .spawn 0 (.operation (.resolveLedger "run"
        { idempotencyKey := "run:step:charge:order-1"
          status := .failedNoEffect } "operator" "declined")),
      .act 0 (Surroundings.tick 7 id)]

theorem at_most_once_declined :
    AtMostOnce (runFrom Machine.step (Machine.initial World.opened)
      (declined ++ reserving 2 ++ executing 2 (.ok .null))).world.history :=
  at_most_once chargeBridge _ (by decide)

/-- Two callers find the row declined, and both take it over. -/
def contested : List (runtimeSystem chargeBridge).Label :=
  declined ++ reserving 2 ++ reserving 3 ++ executing 2 (.ok .null) ++
    executing 3 (.ok .null)

theorem contested_executed_twice :
    ¬ AtMostOnce (runFrom Machine.step (Machine.initial World.opened)
      contested).world.history := by
  have history : (runFrom Machine.step (Machine.initial World.opened)
      contested).world.history =
        [.executed "run:step:charge:order-1",
          .resolvedNoEffect "run:step:charge:order-1"] ++
        .executed "run:step:charge:order-1" ::
          ([] ++ .executed "run:step:charge:order-1" :: []) := by
    decide
  intro once
  exact List.not_mem_nil (once _ _ _ _ history)

end AgentLedger
