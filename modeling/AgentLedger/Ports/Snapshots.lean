import AgentLedger.Foundation.Files
import AgentLedger.Go.Schema
import AgentLedger.Rust.Memory.Restarts
import AgentLedger.TypeScript.Schema

/-! How the three ports save a store under a path, and open it. -/

namespace AgentLedger

open Foundation

/-- How stores are put into bytes and read from them.  Some cannot be encoded,
and some bytes are no store. -/
structure Codec (Store : Type) where
  encode : Store → Option ByteArray
  decode : ByteArray → Option Store

namespace Go

/-- The calls of `flushLocked`. -/
def flushCalls (codec : Codec StoreData) (path : String) (data : StoreData) :
    List FileCall :=
  if path = "" then []
  else
    match codec.encode data with
    | none => []
    | some content =>
        let tmp := path ++ ".tmp"
        [.truncate tmp, .write tmp content, .rename tmp path]

/-- `NewJSONStore` -/
def openStore (codec : Codec StoreData) (path : String) (files : Files) :
    Option StoreData :=
  match files path with
  | none => some .empty
  | some content =>
      if content.size = 0 then some .empty else codec.decode content

end Go

namespace TypeScript

def dirname (path : String) : String :=
  "/".intercalate (path.splitOn "/").dropLast

/-- The calls of `flush`. -/
def flushCalls (codec : Codec StoreData) (path : String) (data : StoreData) :
    List FileCall :=
  if path = "" then []
  else
    match codec.encode data with
    | none => [.makeDirectory (dirname path)]
    | some content =>
        let tmp := path ++ ".tmp"
        [.makeDirectory (dirname path), .truncate tmp, .write tmp content,
          .rename tmp path]

/-- `JSONStore.open`, where some content is blank. -/
def openStore (codec : Codec StoreData) (blank : ByteArray → Bool)
    (path : String) (files : Files) : Option StoreData :=
  match files path with
  | none => some .empty
  | some content =>
      if blank content then some .empty else codec.decode content

end TypeScript

namespace Rust

/-- `save_to_path` -/
def saveCalls (text : F64Text) (path : String) (store : MemoryStore) :
    List FileCall :=
  [.truncate path, .write path (encodeStore text store).toUTF8]

/-- `load_from_path` -/
def loadFromPath (text : F64Text) (path : String) (files : Files) :
    Option MemoryStore := do
  let content ← files path
  let body ← String.fromUTF8? content
  (decodeStore text body).toOption

end Rust

/-! ### Crashes -/

/-- A port as its stores are kept. -/
structure Persistence where
  Store : Type
  save : String → Store → List FileCall
  read : String → Files → Option Store

namespace Persistence

variable (port : Persistence)

/-- A save that is done can be read. -/
def Readable (path : String) (store : port.Store) : Prop :=
  ∀ files, port.read path (FileCall.applyAll (port.save path store) files) =
    some store

/-- Whatever is left of a save where another store was kept, what is read is
the one store or the other. -/
def CrashAtomic (path : String) (saved store : port.Store) : Prop :=
  ∀ files, port.read path files = some saved →
    ∀ after, FileCall.Crashed (port.save path store) files after →
      port.read path after = some saved ∨ port.read path after = some store

end Persistence

inductive SnapshotPort
  | go
  | typeScript
  | rust
  deriving DecidableEq

/-- What the ports leave to their libraries. -/
structure Codecs where
  go : Codec Go.StoreData
  typeScript : Codec TypeScript.StoreData
  blank : ByteArray → Bool
  text : Rust.F64Text

def SnapshotPort.persistence (codecs : Codecs) : SnapshotPort → Persistence
  | .go => ⟨_, Go.flushCalls codecs.go, Go.openStore codecs.go⟩
  | .typeScript => ⟨_, TypeScript.flushCalls codecs.typeScript,
      TypeScript.openStore codecs.typeScript codecs.blank⟩
  | .rust => ⟨_, Rust.saveCalls codecs.text, Rust.loadFromPath codecs.text⟩

private theorem tmp_ne (path : String) : path ++ ".tmp" ≠ path := by
  intro same
  have lengths := congrArg String.length same
  rw [String.length_append] at lengths
  have longer : (".tmp" : String).length = 4 := rfl
  omega

theorem Go.replaces (codec : Codec StoreData) (path : String)
    (data : StoreData) :
    FileCall.Replaces path (flushCalls codec path data) := by
  unfold flushCalls
  split
  · exact .nothing [] (by simp)
  · cases codec.encode data with
    | none => exact .nothing [] (by simp)
    | some content =>
        apply FileCall.Replaces.rename [_, _]
        simp [FileCall.Leaves]

theorem TypeScript.replaces (codec : Codec StoreData) (path : String)
    (data : StoreData) :
    FileCall.Replaces path (flushCalls codec path data) := by
  unfold flushCalls
  split
  · exact .nothing [] (by simp)
  · cases codec.encode data with
    | none => exact .nothing [_] (by simp [FileCall.Leaves])
    | some content =>
        apply FileCall.Replaces.rename [_, _, _]
        simp [FileCall.Leaves]

namespace Persistence

variable {port : Persistence} {path : String} {saved store : port.Store}

/-- What is read depends on the file under the path alone, which is replaced as
a whole. -/
theorem crashAtomic_of_replaces (readable : port.Readable path store)
    (file : ∀ first second : Files, first path = second path →
      port.read path first = port.read path second)
    (replaces : FileCall.Replaces path (port.save path store)) :
    port.CrashAtomic path saved store := by
  intro files held after crashed
  rcases crashed.of_replaces replaces with same | done
  · rw [file after files same]
    exact .inl held
  · rw [file after _ done]
    exact .inr (readable files)

end Persistence

theorem Rust.loadFromPath_empty (text : F64Text) {path : String}
    {files : Files} (empty : files path = some .empty) :
    loadFromPath text path files = none := by
  have nothing : String.fromUTF8? .empty = some "" := by decide
  have lines : textLines "" = [] := by decide
  rw [loadFromPath, empty]
  simp only [Option.bind_eq_bind, Option.bind_some, nothing, decodeStore, lines]
  rfl

/-- Whatever the stores, a save of the Rust port can be cut where nothing can
be read any more. -/
theorem Rust.not_crashAtomic (text : F64Text) {path : String}
    {saved store : MemoryStore}
    (readable : Persistence.Readable
      ⟨_, saveCalls text, loadFromPath text⟩ path saved) :
    ¬Persistence.CrashAtomic ⟨_, saveCalls text, loadFromPath text⟩ path
      saved store := by
  intro atomic
  obtain ⟨after, crashed, empty⟩ := @FileCall.Crashed.empties path
    (encodeStore text store).toUTF8
    (FileCall.applyAll (saveCalls text path saved) fun _ => none)
  have unread := loadFromPath_empty text empty
  rcases atomic _ (readable _) after crashed with old | new
  · exact Option.some_ne_none _ (old.symm.trans unread)
  · exact Option.some_ne_none _ (new.symm.trans unread)

/-- A crash during a save leaves the old store or the new one in the ports that
write elsewhere and rename, and in no other. -/
theorem crash_atomic_iff (codecs : Codecs) (port : SnapshotPort)
    (path : String) (saved store : (port.persistence codecs).Store)
    (earlier : (port.persistence codecs).Readable path saved)
    (later : (port.persistence codecs).Readable path store) :
    (port.persistence codecs).CrashAtomic path saved store ↔
      port ≠ .rust := by
  cases port with
  | go =>
      refine iff_of_true (Persistence.crashAtomic_of_replaces later ?_ ?_)
        (by decide)
      · intro first second same
        simp only [SnapshotPort.persistence, Go.openStore, same]
      · exact Go.replaces codecs.go path store
  | typeScript =>
      refine iff_of_true (Persistence.crashAtomic_of_replaces later ?_ ?_)
        (by decide)
      · intro first second same
        simp only [SnapshotPort.persistence, TypeScript.openStore, same]
      · exact TypeScript.replaces codecs.typeScript path store
  | rust =>
      exact iff_of_false (Rust.not_crashAtomic codecs.text earlier)
        fun other => other rfl

theorem Go.readable {codec : Codec StoreData} {path : String}
    {data : StoreData} {content : ByteArray} (named : path ≠ "")
    (encoded : codec.encode data = some content) (written : content.size ≠ 0)
    (decoded : codec.decode content = some data) :
    Persistence.Readable ⟨_, flushCalls codec, openStore codec⟩ path data := by
  intro files
  have calls : flushCalls codec path data = [.truncate (path ++ ".tmp"),
      .write (path ++ ".tmp") content, .rename (path ++ ".tmp") path] := by
    rw [flushCalls, if_neg named, encoded]
  have held : FileCall.applyAll (flushCalls codec path data) files path =
      some content := by
    rw [calls]
    simp [FileCall.applyAll, FileCall.apply]
  simp only [openStore, held, if_neg written, decoded]

theorem TypeScript.readable {codec : Codec StoreData}
    {blank : ByteArray → Bool} {path : String} {data : StoreData}
    {content : ByteArray} (named : path ≠ "")
    (encoded : codec.encode data = some content) (written : blank content = false)
    (decoded : codec.decode content = some data) :
    Persistence.Readable ⟨_, flushCalls codec, openStore codec blank⟩ path
      data := by
  intro files
  have calls : flushCalls codec path data = [.makeDirectory (dirname path),
      .truncate (path ++ ".tmp"), .write (path ++ ".tmp") content,
      .rename (path ++ ".tmp") path] := by
    rw [flushCalls, if_neg named, encoded]
  have held : FileCall.applyAll (flushCalls codec path data) files path =
      some content := by
    rw [calls]
    simp [FileCall.applyAll, FileCall.apply]
  simp only [openStore, held, written, decoded]
  rfl

theorem Rust.readable (text : F64Text) (path : String) {store : MemoryStore}
    (decoded : decodeStore text (encodeStore text store) = .ok store) :
    Persistence.Readable ⟨_, saveCalls text, loadFromPath text⟩ path store := by
  intro files
  have content : FileCall.applyAll (saveCalls text path store) files path =
      some (encodeStore text store).toUTF8 := Function.update_self _ _ _
  have body : String.fromUTF8? (encodeStore text store).toUTF8 =
      some (encodeStore text store) := by
    rw [String.toUTF8_eq_toByteArray, String.fromUTF8?,
      dif_pos (String.isValidUTF8 _)]
    rfl
  simp only [loadFromPath, content, Option.bind_eq_bind, Option.bind_some, body,
    decoded]
  rfl

/-! ### An empty store, and one with a run -/

def Go.runStore : StoreData :=
  { StoreData.empty with
    runs := Dictionary.empty.insert "run_1"
      ⟨"run_1", "sess_1", "pending", .empty, 0, Rust.F64.ofNat 1,
        Rust.F64.ofNat 1⟩ }

def TypeScript.runStore : StoreData :=
  { StoreData.empty with
    runs := ⟨[("run_1", ⟨"run_1", "sess_1", "pending",
      ⟨[], by simp [Json.DistinctFields]⟩, 0, Rust.F64.ofNat 1,
      Rust.F64.ofNat 1⟩)], List.nodup_singleton _⟩ }

def Rust.runStore : MemoryStore :=
  { MemoryStore.new with
    runs := Dictionary.empty.insert "run_1"
      ⟨"run_1", "sess_1", "pending", State.new, 0, F64.ofNat 0, F64.ofNat 0⟩ }

/-- The text of a store that has nothing but runs. -/
def storeText (runs : String) : String :=
  "\x7b\n  \"runs\": " ++ runs ++ String.join
    (["steps", "events", "tool_ledger", "approval_requests", "cost_records",
      "artifacts"].map fun table => ",\n  \"" ++ table ++ "\": \x7b\x7d") ++
    "\n\x7d"

def emptyText : String := storeText "\x7b\x7d"

def runText : String :=
  storeText ("\x7b\n    \"run_1\": \x7b\n      \"run_id\": \"run_1\"" ++
    ",\n      \"session_id\": \"sess_1\",\n      \"status\": \"pending\"" ++
    ",\n      \"state\": \x7b\x7d,\n      \"state_version\": 0" ++
    ",\n      \"created_at\": 1,\n      \"updated_at\": 1\n    \x7d\n  \x7d")

/-- A library on two stores, of which one has no runs. -/
def codecOf {Store : Type} (isEmpty : Store → Bool) (empty filled : Store)
    (ending : String) : Codec Store where
  encode store :=
    some ((if isEmpty store then emptyText else runText) ++ ending).toUTF8
  decode content :=
    if content.data = (emptyText ++ ending).toUTF8.data then some empty
    else if content.data = (runText ++ ending).toUTF8.data then some filled
    else none

def plainCodecs : Codecs where
  go := codecOf (fun data => data.runs.entries.isEmpty) .empty Go.runStore ""
  typeScript := codecOf (fun data => data.runs.entries.isEmpty) .empty
    TypeScript.runStore "\n"
  blank content := content.size = 0
  text := Rust.bitText

section Codec

variable {Store : Type} {isEmpty : Store → Bool} {empty filled : Store}
  {ending : String}

theorem codecOf_empty : (codecOf isEmpty empty filled ending).decode
    (emptyText ++ ending).toUTF8 = some empty :=
  if_pos rfl

theorem codecOf_filled : (codecOf isEmpty empty filled ending).decode
    (runText ++ ending).toUTF8 = some filled := by
  have different : runText ++ ending ≠ emptyText ++ ending := by
    intro same
    exact absurd (String.append_left_inj ending |>.mp same) (by decide)
  refine (if_neg fun same => different ?_).trans (if_pos rfl)
  exact String.toByteArray_inj.mp (ByteArray.ext same)

end Codec

theorem readable_go :
    (SnapshotPort.go.persistence plainCodecs).Readable "store.json"
        Go.StoreData.empty ∧
      (SnapshotPort.go.persistence plainCodecs).Readable "store.json"
        Go.runStore :=
  ⟨Go.readable (by decide) rfl (by decide +kernel) codecOf_empty,
    Go.readable (by decide) rfl (by decide +kernel) codecOf_filled⟩

theorem readable_typeScript :
    (SnapshotPort.typeScript.persistence plainCodecs).Readable "store.json"
        TypeScript.StoreData.empty ∧
      (SnapshotPort.typeScript.persistence plainCodecs).Readable "store.json"
        TypeScript.runStore :=
  ⟨TypeScript.readable (by decide) rfl (by decide +kernel) codecOf_empty,
    TypeScript.readable (by decide) rfl (by decide +kernel) codecOf_filled⟩

theorem readable_rust (path : String) :
    (SnapshotPort.rust.persistence plainCodecs).Readable path
        Rust.MemoryStore.new ∧
      (SnapshotPort.rust.persistence plainCodecs).Readable path
        Rust.runStore :=
  ⟨Rust.readable Rust.bitText path
      (Rust.decodeStore_encodeStore Rust.bitText_lawful
        Rust.MemoryStore.keyed_new (by constructor <;> decide)),
    Rust.readable Rust.bitText path
      (Rust.decodeStore_encodeStore Rust.bitText_lawful
        (by constructor <;> decide) (by constructor <;> decide))⟩

/-- A first run is saved over the empty store. -/
theorem crash_atomic_ports :
    (SnapshotPort.go.persistence plainCodecs).CrashAtomic "store.json"
        Go.StoreData.empty Go.runStore ∧
    (SnapshotPort.typeScript.persistence plainCodecs).CrashAtomic "store.json"
        TypeScript.StoreData.empty TypeScript.runStore ∧
    ¬(SnapshotPort.rust.persistence plainCodecs).CrashAtomic "store"
        Rust.MemoryStore.new Rust.runStore := by
  refine ⟨?_, ?_, ?_⟩
  · exact (crash_atomic_iff plainCodecs .go _ _ _ readable_go.1
      readable_go.2).mpr (by decide)
  · exact (crash_atomic_iff plainCodecs .typeScript _ _ _ readable_typeScript.1
      readable_typeScript.2).mpr (by decide)
  · exact fun atomic => (crash_atomic_iff plainCodecs .rust _ _ _
      (readable_rust "store").1 (readable_rust "store").2).mp atomic rfl

theorem rust_save_not_atomic :
    ¬∀ (codecs : Codecs) (port : SnapshotPort) (path : String)
      (saved store : (port.persistence codecs).Store),
      (port.persistence codecs).Readable path saved →
      (port.persistence codecs).Readable path store →
      (port.persistence codecs).CrashAtomic path saved store := by
  intro every
  have readable := (readable_rust "store").1
  exact Rust.not_crashAtomic Rust.bitText readable
    (every plainCodecs .rust "store" _ Rust.MemoryStore.new readable readable)

end AgentLedger
