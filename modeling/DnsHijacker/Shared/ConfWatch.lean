import DnsHijacker.Library.Run
import DnsHijacker.Shared.DomainTrie

/-!
# Hot reload of the configuration

`run_server` loads the configuration, builds the rules from it and starts
`watch_conf_and_reload`, which remembers the modification time of the file and
loads the file again when a tick finds another one.  The file is written at any
moment, so the time that is remembered and the content that is loaded may belong
to different versions of it.
-/

namespace DnsHijacker.Shared

open DnsHijacker.Rust
open DnsHijacker.Library
open DnsHijacker.Shared.DomainTrie

/-- What `Conf` says about the rules. -/
structure Conf where
  dropList : List Text
  redirectList : List (Text × Text)

/-- No entry of the lists names a list file. -/
structure Conf.IsInline (conf : Conf) : Prop where
  dropList : ∀ entry ∈ conf.dropList, isFileReference (trim entry) = false
  redirectList : ∀ entry ∈ conf.redirectList, isFileReference (trim entry.1) = false

/-- The trie of a configuration without list files is the same whatever the file
system holds. -/
theorem Conf.IsInline.build_eq {conf : Conf} (inline : conf.IsInline) (ucd : UnicodeData)
    (readFile other : Text → Option Text) :
    build ucd readFile conf.dropList conf.redirectList =
      build ucd other conf.dropList conf.redirectList := by
  have drops : ∀ entry ∈ conf.dropList, dropPatterns readFile entry = dropPatterns other entry := by
    intro entry mem
    rw [dropPatterns, dropPatterns, inline.dropList entry mem]
    rfl
  have redirects : ∀ entry ∈ conf.redirectList,
      redirectPatterns readFile entry = redirectPatterns other entry := by
    intro entry mem
    rw [redirectPatterns, redirectPatterns, inline.redirectList entry mem]
    rfl
  rw [DomainTrie.build_eq, DomainTrie.build_eq, dropInserts, dropInserts, redirectInserts,
    redirectInserts, List.flatMap_congr drops, List.flatMap_congr redirects]

/-! ## The watcher -/

structure ConfFile where
  mtime : Nat
  content : Text

/-- Where the program is. -/
inductive WatchPhase where
  /-- It starts. -/
  | startUp
  /-- The start-up load has returned. -/
  | firstBuild (conf : Conf)
  /-- The watcher is spawned. -/
  | spawned
  /-- The watcher waits for its tick. -/
  | waiting (lastMtime : Option Nat)
  /-- The tick has found another modification time. -/
  | changed (lastMtime : Nat)
  /-- The tick's load has returned. -/
  | reloaded (conf : Conf) (lastMtime : Nat)
  | exited

structure Watch where
  file : ConfFile
  phase : WatchPhase
  ruleTrie : DomainTrie

/-- The program before `run_server` has loaded the file. -/
def Watch.start (file : ConfFile) : Watch where
  file := file
  phase := .startUp
  ruleTrie := Trie.empty

inductive WatchEvent where
  | write (mtime : Nat) (content : Text)
  /-- `fs::metadata`; it may fail. -/
  | stat (ok : Bool)
  /-- `load_conf`; the file may not be readable. -/
  | load (readable : Bool)
  /-- The rules are built, with the list files as they are now, and installed. -/
  | install (readFile : Text → Option Text)

section

variable (ucd : UnicodeData)
-- `parse` is what `toml::from_str` makes of a text.
variable (parse : Text → Option Conf)

/-- `load_conf` -/
def loadConf (readable : Bool) (file : ConfFile) : Option Conf :=
  if readable then parse file.content else none

/-- One event. -/
def watchStep (watch : Watch) : WatchEvent → Option Watch
  | .write mtime content =>
      if watch.file.mtime < mtime then some { watch with file := { mtime, content } } else none
  | .stat ok =>
      match watch.phase with
      | .spawned =>
          some { watch with phase := .waiting (if ok then some watch.file.mtime else none) }
      | .waiting lastMtime =>
          if ok ∧ some watch.file.mtime ≠ lastMtime then
            some { watch with phase := .changed watch.file.mtime }
          else some watch
      | _ => none
  | .load readable =>
      match watch.phase with
      | .startUp =>
          match loadConf parse readable watch.file with
          | some conf => some { watch with phase := .firstBuild conf }
          | none => some { watch with phase := .exited }
      | .changed lastMtime =>
          match loadConf parse readable watch.file with
          | some conf => some { watch with phase := .reloaded conf lastMtime }
          | none => some { watch with phase := .waiting (some lastMtime) }
      | _ => none
  | .install readFile =>
      match watch.phase with
      | .firstBuild conf =>
          some { watch with
            phase := .spawned
            ruleTrie := build ucd readFile conf.dropList conf.redirectList }
      | .reloaded conf lastMtime =>
          some { watch with
            phase := .waiting (some lastMtime)
            ruleTrie := build ucd readFile conf.dropList conf.redirectList }
      | _ => none

/-- What the events do. -/
inductive WatchMoves (watch : Watch) : WatchEvent → Watch → Prop
  | write {mtime : Nat} {content : Text} (later : watch.file.mtime < mtime) :
      WatchMoves watch (.write mtime content) { watch with file := { mtime, content } }
  | firstStat (spawned : watch.phase = .spawned) :
      WatchMoves watch (.stat true) { watch with phase := .waiting (some watch.file.mtime) }
  | noFirstStat (spawned : watch.phase = .spawned) :
      WatchMoves watch (.stat false) { watch with phase := .waiting none }
  | unchanged {ok : Bool} {lastMtime : Option Nat} (waiting : watch.phase = .waiting lastMtime) :
      WatchMoves watch (.stat ok) watch
  | changed {lastMtime : Option Nat} (waiting : watch.phase = .waiting lastMtime) :
      WatchMoves watch (.stat true) { watch with phase := .changed watch.file.mtime }
  | firstLoad {readable : Bool} {conf : Conf} (startUp : watch.phase = .startUp) :
      WatchMoves watch (.load readable) { watch with phase := .firstBuild conf }
  | exit {readable : Bool} (startUp : watch.phase = .startUp) :
      WatchMoves watch (.load readable) { watch with phase := .exited }
  | load {readable : Bool} {lastMtime : Nat} {conf : Conf}
      (changed : watch.phase = .changed lastMtime)
      (loaded : loadConf parse readable watch.file = some conf) :
      WatchMoves watch (.load readable) { watch with phase := .reloaded conf lastMtime }
  | noLoad {readable : Bool} {lastMtime : Nat} (changed : watch.phase = .changed lastMtime)
      (failed : loadConf parse readable watch.file = none) :
      WatchMoves watch (.load readable) { watch with phase := .waiting (some lastMtime) }
  | firstInstall {readFile : Text → Option Text} {conf : Conf}
      (firstBuild : watch.phase = .firstBuild conf) :
      WatchMoves watch (.install readFile)
        { watch with
          phase := .spawned
          ruleTrie := build ucd readFile conf.dropList conf.redirectList }
  | install {readFile : Text → Option Text} {conf : Conf} {lastMtime : Nat}
      (reloaded : watch.phase = .reloaded conf lastMtime) :
      WatchMoves watch (.install readFile)
        { watch with
          phase := .waiting (some lastMtime)
          ruleTrie := build ucd readFile conf.dropList conf.redirectList }

end

variable {ucd : UnicodeData} {parse : Text → Option Conf}

theorem watchMoves_of_step {watch after : Watch} {event : WatchEvent}
    (stepped : watchStep ucd parse watch event = some after) :
    WatchMoves ucd parse watch event after := by
  cases event with
  | write mtime content =>
      rw [watchStep] at stepped
      split at stepped
      · rename_i later
        cases stepped
        exact .write later
      · contradiction
  | stat ok =>
      rw [watchStep] at stepped
      split at stepped
      · rename_i spawned
        cases stepped
        cases ok with
        | true => exact .firstStat spawned
        | false => exact .noFirstStat spawned
      · rename_i lastMtime waiting
        split at stepped
        · rename_i differs
          cases stepped
          rw [differs.1]
          exact .changed waiting
        · cases stepped
          exact .unchanged waiting
      · contradiction
  | load readable =>
      rw [watchStep] at stepped
      split at stepped
      · rename_i startUp
        split at stepped
        · cases stepped
          exact .firstLoad startUp
        · cases stepped
          exact .exit startUp
      · rename_i lastMtime changed
        split at stepped
        · rename_i conf loaded
          cases stepped
          exact .load changed loaded
        · rename_i failed
          cases stepped
          exact .noLoad changed failed
      · contradiction
  | install readFile =>
      rw [watchStep] at stepped
      split at stepped
      · rename_i conf firstBuild
        cases stepped
        exact .firstInstall firstBuild
      · rename_i conf lastMtime reloaded
        cases stepped
        exact .install reloaded
      · contradiction

/-! ## Which version is loaded -/

/-- The time that is remembered is that of the file or of an earlier version, and
what has been loaded is the file's content if the time is the file's. -/
inductive Tracks (parse : Text → Option Conf) (file : ConfFile) : WatchPhase → Prop
  | startUp : Tracks parse file .startUp
  | firstBuild {conf : Conf} : Tracks parse file (.firstBuild conf)
  | spawned : Tracks parse file .spawned
  | notSeen : Tracks parse file (.waiting none)
  | waiting {lastMtime : Nat} (past : lastMtime ≤ file.mtime) :
      Tracks parse file (.waiting (some lastMtime))
  | changed {lastMtime : Nat} (past : lastMtime ≤ file.mtime) :
      Tracks parse file (.changed lastMtime)
  | reloaded {conf : Conf} {lastMtime : Nat} (past : lastMtime ≤ file.mtime)
      (loaded : lastMtime = file.mtime → parse file.content = some conf) :
      Tracks parse file (.reloaded conf lastMtime)
  | exited : Tracks parse file .exited

theorem parse_of_loadConf {readable : Bool} {file : ConfFile} {conf : Conf}
    (loaded : loadConf parse readable file = some conf) : parse file.content = some conf := by
  rw [loadConf] at loaded
  split at loaded
  · exact loaded
  · contradiction

theorem Tracks.write {file : ConfFile} {phase : WatchPhase} (tracks : Tracks parse file phase)
    {mtime : Nat} (content : Text) (later : file.mtime < mtime) :
    Tracks parse { mtime, content } phase := by
  cases tracks with
  | startUp => exact .startUp
  | firstBuild => exact .firstBuild
  | spawned => exact .spawned
  | notSeen => exact .notSeen
  | waiting past => exact .waiting (past.trans later.le)
  | changed past => exact .changed (past.trans later.le)
  | reloaded past loaded =>
      apply Tracks.reloaded (past.trans later.le)
      intro same
      exact absurd same (past.trans_lt later).ne
  | exited => exact .exited

theorem Tracks.move {watch after : Watch} {event : WatchEvent}
    (tracks : Tracks parse watch.file watch.phase)
    (moves : WatchMoves ucd parse watch event after) : Tracks parse after.file after.phase := by
  cases moves with
  | write later => exact tracks.write _ later
  | firstStat spawned => exact .waiting (Nat.le_refl _)
  | noFirstStat spawned => exact .notSeen
  | unchanged waiting => exact tracks
  | changed waiting => exact .changed (Nat.le_refl _)
  | firstLoad startUp => exact .firstBuild
  | exit startUp => exact .exited
  | load changed loaded =>
      rw [changed] at tracks
      cases tracks with
      | changed past => exact .reloaded past (fun _ => parse_of_loadConf loaded)
  | noLoad changed failed =>
      rw [changed] at tracks
      cases tracks with
      | changed past => exact .waiting past
  | firstInstall firstBuild => exact .spawned
  | install reloaded =>
      rw [reloaded] at tracks
      cases tracks with
      | reloaded past loaded => exact .waiting past

/-! ## When an update is lost -/

/-- If the file holds a valid configuration without list files, the rules are those
of the file. -/
def Current (ucd : UnicodeData) (parse : Text → Option Conf) (watch : Watch) : Prop :=
  ∀ conf, parse watch.file.content = some conf → conf.IsInline →
    ∀ readFile, watch.ruleTrie = build ucd readFile conf.dropList conf.redirectList

/-- A tick that finds the time unchanged finds the rules of the file. -/
def TickFindsCurrent (ucd : UnicodeData) (parse : Text → Option Conf) (watch : Watch) : Prop :=
  watch.phase = .waiting (some watch.file.mtime) → Current ucd parse watch

/-- The first time that is remembered, and a time whose load fails, are those of a
file whose rules are installed already, unless the load is of a time that the file has no
more. -/
def NoneMissed (ucd : UnicodeData) (parse : Text → Option Conf) (watch : Watch) :
    WatchEvent → Prop
  | .stat true => watch.phase = .spawned → Current ucd parse watch
  | .load false => watch.phase = .changed watch.file.mtime → Current ucd parse watch
  | _ => True

theorem current_of_invalid {watch : Watch} (invalid : parse watch.file.content = none) :
    Current ucd parse watch := by
  intro conf valid
  rw [invalid] at valid
  contradiction

theorem tickFindsCurrent_iff {watch after : Watch} {event : WatchEvent}
    (tracks : Tracks parse watch.file watch.phase) (before : TickFindsCurrent ucd parse watch)
    (moves : WatchMoves ucd parse watch event after) :
    TickFindsCurrent ucd parse after ↔ NoneMissed ucd parse watch event := by
  cases moves with
  | @write mtime content later =>
      apply iff_of_true _ trivial
      intro waiting
      rw [show watch.phase = .waiting (some mtime) from waiting] at tracks
      cases tracks with
      | waiting past => exact absurd later (Nat.not_lt.mpr past)
  | firstStat spawned =>
      constructor
      · exact fun current _ => current rfl
      · exact fun current _ => current spawned
  | noFirstStat spawned => exact iff_of_true (fun waiting => nomatch waiting) trivial
  | @unchanged ok lastMtime waiting =>
      apply iff_of_true before
      cases ok with
      | false => trivial
      | true =>
          intro spawned
          rw [waiting] at spawned
          contradiction
  | changed waiting =>
      apply iff_of_true (fun waiting => nomatch waiting)
      intro spawned
      rw [waiting] at spawned
      contradiction
  | @firstLoad readable conf startUp =>
      apply iff_of_true (fun waiting => nomatch waiting)
      cases readable with
      | true => trivial
      | false =>
          intro changed
          rw [startUp] at changed
          contradiction
  | @exit readable startUp =>
      apply iff_of_true (fun waiting => nomatch waiting)
      cases readable with
      | true => trivial
      | false =>
          intro changed
          rw [startUp] at changed
          contradiction
  | @load readable lastMtime conf changed loaded =>
      apply iff_of_true (fun waiting => nomatch waiting)
      cases readable with
      | true => trivial
      | false => contradiction
  | @noLoad readable lastMtime changed failed =>
      cases readable with
      | true =>
          apply iff_of_true _ trivial
          intro _
          exact current_of_invalid failed
      | false =>
          constructor
          · intro current same
            rw [changed] at same
            cases same
            exact current rfl
          · intro current waiting
            have same : lastMtime = watch.file.mtime := by
              injection waiting with same
              exact Option.some.inj same
            rw [same] at changed
            exact current changed
  | firstInstall firstBuild => exact iff_of_true (fun waiting => nomatch waiting) trivial
  | @install readFile conf lastMtime reloaded =>
      apply iff_of_true _ trivial
      intro waiting other valid inline otherFile
      rw [reloaded] at tracks
      cases tracks with
      | reloaded past loaded =>
          have same : lastMtime = watch.file.mtime := by
            injection waiting with same
            exact Option.some.inj same
          have shown : parse watch.file.content = some other := valid
          rw [loaded same] at shown
          cases shown
          exact inline.build_eq ucd readFile otherFile

/-- Whenever a tick finds the time unchanged the rules are those of the file, exactly
if the watcher never remembers a time without the rules of that version. -/
theorem reload_loses_none_iff {file : ConfFile} {trace : List WatchEvent} {watch : Watch}
    (ran : run (watchStep ucd parse) (Watch.start file) trace = some watch) :
    Throughout (watchStep ucd parse) (TickFindsCurrent ucd parse) (Watch.start file) trace ↔
      Along (watchStep ucd parse) (NoneMissed ucd parse) (Watch.start file) trace := by
  apply throughout_iff (I := fun watch => Tracks parse watch.file watch.phase) .startUp _ _ _
    (along_true _ _ trace) ran
  · intro waiting
    contradiction
  · intro state event after tracks _ stepped
    exact tracks.move (watchMoves_of_step stepped)
  · intro state event after tracks before _ stepped
    exact tickFindsCurrent_iff tracks before (watchMoves_of_step stepped)

/-! ## Two lost updates -/

/-- A file without rules. -/
def noRules : Text :=
  "drop_list = []\nredirect_list = []\nresolvers = []\n".toList

/-- A file with one drop pattern. -/
def adsRules : Text :=
  "drop_list = [\"ads.com\"]\nredirect_list = []\nresolvers = []\n".toList

/-- What the two files say. -/
def confOf (content : Text) : Option Conf :=
  if content = noRules then some ⟨[], []⟩
  else if content = adsRules then some ⟨["ads.com".toList], []⟩
  else none

/-- No list file can be read. -/
def noFiles : Text → Option Text :=
  fun _ => none

/-- The program starts with a file without rules. -/
def started : List WatchEvent :=
  [.load true, .install noFiles]

/-- The file is written before the watcher looks at its time. -/
def writtenTooSoon : List WatchEvent :=
  started ++ [.write 1 adsRules, .stat true, .stat true]

/-- The file is written later, and cannot be read at once. -/
def readTooSoon : List WatchEvent :=
  started ++ [.stat true, .write 1 adsRules, .stat true, .load false, .stat true]

/-- The file is written and read. -/
def writtenAndRead : List WatchEvent :=
  started ++ [.stat true, .write 1 adsRules, .stat true, .load true, .install noFiles, .stat true]

theorem current_of_started (watch : Watch) (content : watch.file.content = noRules)
    (ruleTrie : watch.ruleTrie = Trie.empty) : Current .ascii confOf watch := by
  intro conf valid _ readFile
  rw [content] at valid
  cases valid
  rw [ruleTrie]
  rfl

theorem reload_loses_none_written :
    Throughout (watchStep .ascii confOf) (TickFindsCurrent .ascii confOf)
      (Watch.start ⟨0, noRules⟩) writtenAndRead := by
  apply (reload_loses_none_iff rfl).mpr
  refine along_of_step trivial rfl (along_of_step trivial rfl (along_of_step ?_ rfl
    (along_of_step trivial rfl (along_of_step ?_ rfl (along_of_step trivial rfl
      (along_of_step trivial rfl (along_of_step ?_ rfl trivial)))))))
  · exact fun _ => current_of_started _ rfl rfl
  · exact fun spawned => nomatch spawned
  · exact fun spawned => nomatch spawned

/-- The last tick of a run finds the time unchanged, and the rules are not those of
the file. -/
def LosesUpdate (trace : List WatchEvent) : Prop :=
  ∃ watch, run (watchStep .ascii confOf) (Watch.start ⟨0, noRules⟩) trace = some watch ∧
    watch.phase = .waiting (some watch.file.mtime) ∧ ¬ Current .ascii confOf watch

theorem not_current_of_empty (watch : Watch) (content : watch.file.content = adsRules)
    (ruleTrie : watch.ruleTrie = Trie.empty) : ¬ Current .ascii confOf watch := by
  intro current
  have valid : confOf watch.file.content = some ⟨["ads.com".toList], []⟩ := by
    rw [content]
    rfl
  have same := current _ valid ⟨by decide, by decide⟩ noFiles
  rw [ruleTrie] at same
  have dropped : lookup .ascii Trie.empty "ads.com".toList = .drop := by
    rw [same]
    decide +kernel
  contradiction

theorem updates_lost : LosesUpdate writtenTooSoon ∧ LosesUpdate readTooSoon := by
  constructor
  · exact ⟨_, rfl, rfl, not_current_of_empty _ rfl rfl⟩
  · exact ⟨_, rfl, rfl, not_current_of_empty _ rfl rfl⟩

end DnsHijacker.Shared
