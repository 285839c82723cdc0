import DnsHijacker.Rust.Text

/-!
# The history file

The file has a line for each domain: the domain and after it the addresses it
has resolved to, separated by spaces.  `flush` reads the file into two maps,
adds a batch of lookups to them and writes all lines again.
-/

namespace DnsHijacker.DnsRelay

open DnsHijacker.Rust

abbrev HistoryBufferEntry := Text × List Text

/-- The maps `history` and `seen` and the list `order` of `flush`.  A missing
set of `seen` is an empty one. -/
structure Merge where
  history : Text → Option (List Text)
  seen : Text → List Text
  order : List Text

namespace Merge

/-- `HashMap::new()`, `HashMap::new()` and `Vec::new()` -/
def new : Merge where
  history _ := none
  seen _ := []
  order := []

/-- Both maps get the domain's new values. -/
def enter (merge : Merge) (domain : Text) (ips seenSet order : List Text) : Merge where
  history := Function.update merge.history domain (some ips)
  seen := Function.update merge.seen domain seenSet
  order := order

/-- A line of the file.  A later line of the same domain replaces its
addresses. -/
def readLine (merge : Merge) (line : Text) : Merge :=
  match splitWhitespace line with
  | [] => merge
  | domain :: ips => merge.enter domain ips ips (merge.order ++ [domain])

/-- The file as it was read, `none` if it could not be read. -/
def readFile : Option Text → Merge
  | none => new
  | some content => (lines content).foldl readLine new

/-- An address of a lookup is added unless it was seen before. -/
def addIp : List Text × List Text → Text → List Text × List Text
  | (existing, seenSet), ip =>
      if ip ∈ seenSet then (existing, seenSet) else (existing ++ [ip], ip :: seenSet)

/-- A lookup of the batch. -/
def addEntry (merge : Merge) : HistoryBufferEntry → Merge
  | (domain, ips) =>
      let (existing, order) := match merge.history domain with
        | some existing => (existing, merge.order)
        | none => ([], merge.order ++ [domain])
      let (existing, seenSet) := ips.foldl addIp (existing, merge.seen domain)
      merge.enter domain existing seenSet order

/-- The first domains are dropped until `lines_count` are left. -/
def dropExcess (linesCount : Nat) (merge : Merge) : Merge :=
  if linesCount < merge.order.length then
    let excess := merge.order.length - linesCount
    let drained := merge.order.take excess
    { history := fun domain => if domain ∈ drained then none else merge.history domain
      seen := fun domain => if domain ∈ drained then [] else merge.seen domain
      order := merge.order.drop excess }
  else merge

/-- The line of a domain, without its end. -/
def line (domain : Text) (ips : List Text) : Text :=
  domain ++ ips.flatMap (' ' :: ·)

/-- `out`.  A domain in `order` but not in `history` is a panic. -/
def render (merge : Merge) : Option Text :=
  (merge.order.mapM fun domain => (merge.history domain).map (line domain)).map
    (·.flatMap (· ++ ['\n']))

/-! ## What the maps hold -/

/-- The address is among those of the domain. -/
def Holds (merge : Merge) (domain ip : Text) : Prop :=
  ∃ ips, merge.history domain = some ips ∧ ip ∈ ips

/-- The three parts agree, and the lines they make can be read again. -/
structure Sound (merge : Merge) : Prop where
  ordered : ∀ domain, domain ∈ merge.order ↔ ∃ ips, merge.history domain = some ips
  seenHeld : ∀ domain, ∀ ip ∈ merge.seen domain, merge.Holds domain ip
  domainWord : ∀ domain ∈ merge.order, IsWord domain
  ipWord : ∀ domain ip, merge.Holds domain ip → IsWord ip

theorem sound_new : Sound new where
  ordered domain := by simp [new]
  seenHeld _ _ mem := nomatch mem
  domainWord _ mem := nomatch mem
  ipWord _ _ held := by simp [Holds, new] at held

theorem history_enter {merge : Merge} {domain : Text} {ips seenSet order : List Text}
    (other : Text) : (merge.enter domain ips seenSet order).history other =
      if other = domain then some ips else merge.history other :=
  Function.update_apply ..

theorem holds_enter {merge : Merge} {domain other ip : Text} {ips seenSet order : List Text} :
    (merge.enter domain ips seenSet order).Holds other ip ↔
      if other = domain then ip ∈ ips else merge.Holds other ip := by
  rw [Holds, history_enter]
  split
  · simp
  · rfl

theorem Sound.enter {merge : Merge} (sound : merge.Sound) {domain : Text}
    {ips seenSet order : List Text} (domainWord : IsWord domain) (ipWord : ∀ ip ∈ ips, IsWord ip)
    (seenIn : ∀ ip ∈ seenSet, ip ∈ ips)
    (ordered : ∀ other, other ∈ order ↔ other ∈ merge.order ∨ other = domain) :
    (merge.enter domain ips seenSet order).Sound where
  ordered other := by
    change other ∈ order ↔ _
    rw [history_enter, ordered, sound.ordered]
    by_cases same : other = domain
    · simp [same]
    · simp [same]
  seenHeld other ip mem := by
    rw [holds_enter]
    split
    · rename_i same
      subst same
      exact seenIn ip (by simpa [Merge.enter] using mem)
    · rename_i differ
      exact sound.seenHeld other ip (by simpa [Merge.enter, Function.update_of_ne differ] using mem)
  domainWord other mem := by
    rcases (ordered other).mp mem with before | rfl
    · exact sound.domainWord other before
    · exact domainWord
  ipWord other ip held := by
    rw [holds_enter] at held
    split at held
    · exact ipWord ip held
    · exact sound.ipWord other ip held

theorem Sound.readLine {merge : Merge} (sound : merge.Sound) (text : Text) :
    (merge.readLine text).Sound := by
  have areWords : ∀ word ∈ splitWhitespace text, IsWord word :=
    fun _ => isWord_of_mem_splitWhitespace
  rw [Merge.readLine]
  cases split : splitWhitespace text with
  | nil => exact sound
  | cons domain ips =>
      rw [split, List.forall_mem_cons] at areWords
      exact sound.enter areWords.1 areWords.2 (fun _ mem => mem) (by simp)

theorem sound_readFile (content : Option Text) : (readFile content).Sound := by
  cases content with
  | none => exact sound_new
  | some content =>
      rw [readFile]
      generalize lines content = texts
      have general : ∀ merge : Merge, merge.Sound → (texts.foldl Merge.readLine merge).Sound := by
        induction texts with
        | nil => exact fun _ sound => sound
        | cons text texts ih => exact fun merge sound => ih _ (sound.readLine text)
      exact general new sound_new

/-- Adding addresses keeps those there are and leaves out none. -/
theorem foldl_addIp (ips : List Text) {existing seenSet : List Text}
    (seenIn : ∀ ip ∈ seenSet, ip ∈ existing) :
    (∀ ip, ip ∈ (ips.foldl addIp (existing, seenSet)).1 ↔ ip ∈ existing ∨ ip ∈ ips) ∧
      ∀ ip ∈ (ips.foldl addIp (existing, seenSet)).2,
        ip ∈ (ips.foldl addIp (existing, seenSet)).1 := by
  induction ips generalizing existing seenSet with
  | nil => exact ⟨by simp, seenIn⟩
  | cons first ips ih =>
      rw [List.foldl_cons, addIp]
      split
      · rename_i known
        rcases ih seenIn with ⟨members, seen⟩
        refine ⟨fun ip => ?_, seen⟩
        rw [members]
        constructor
        · rintro (old | later)
          · exact .inl old
          · exact .inr (List.mem_cons_of_mem _ later)
        · rintro (old | new)
          · exact .inl old
          · rcases List.mem_cons.mp new with rfl | later
            · exact .inl (seenIn ip known)
            · exact .inr later
      · have extended : ∀ ip ∈ first :: seenSet, ip ∈ existing ++ [first] := by
          intro ip mem
          rcases List.mem_cons.mp mem with rfl | old
          · simp
          · exact List.mem_append_left _ (seenIn ip old)
        rcases ih extended with ⟨members, seen⟩
        refine ⟨fun ip => ?_, seen⟩
        rw [members, List.mem_append, List.mem_singleton, List.mem_cons, or_assoc]

/-- A lookup is in the maps after it was added, and nothing leaves them. -/
theorem Sound.addEntry {merge : Merge} (sound : merge.Sound) {entry : HistoryBufferEntry}
    (domainWord : IsWord entry.1) (ipWord : ∀ ip ∈ entry.2, IsWord ip) :
    (merge.addEntry entry).Sound ∧ ∀ domain ip, (merge.addEntry entry).Holds domain ip ↔
      merge.Holds domain ip ∨ domain = entry.1 ∧ ip ∈ entry.2 := by
  rcases entry with ⟨domain, ips⟩
  -- `entry(domain).or_insert_with(..)`
  obtain ⟨existing, order, chosen, held, ordered⟩ : ∃ existing order,
      (match merge.history domain with
        | some existing => (existing, merge.order)
        | none => ([], merge.order ++ [domain])) = (existing, order) ∧
      (∀ ip, ip ∈ existing ↔ merge.Holds domain ip) ∧
      ∀ other, other ∈ order ↔ other ∈ merge.order ∨ other = domain := by
    cases here : merge.history domain with
    | none => exact ⟨[], merge.order ++ [domain], rfl, by simp [Holds, here], by simp⟩
    | some existing =>
        have known : domain ∈ merge.order := (sound.ordered domain).mpr ⟨existing, here⟩
        refine ⟨existing, merge.order, rfl, by simp [Holds, here], fun other => ?_⟩
        constructor
        · exact .inl
        · rintro (mem | rfl)
          · exact mem
          · exact known
  have seenIn : ∀ ip ∈ merge.seen domain, ip ∈ existing :=
    fun ip mem => (held ip).mpr (sound.seenHeld domain ip mem)
  rcases foldl_addIp ips seenIn with ⟨members, seen⟩
  simp only [Merge.addEntry, chosen]
  constructor
  · refine sound.enter domainWord (fun ip mem => ?_) seen ordered
    rcases (members ip).mp mem with old | new
    · exact sound.ipWord domain ip ((held ip).mp old)
    · exact ipWord ip new
  · intro other ip
    rw [holds_enter]
    split
    · rename_i same
      subst same
      rw [members, held]
      simp
    · rename_i differ
      simp [differ]

theorem Sound.addEntries {merge : Merge} (sound : merge.Sound) {batch : List HistoryBufferEntry}
    (areWords : ∀ entry ∈ batch, IsWord entry.1 ∧ ∀ ip ∈ entry.2, IsWord ip) :
    (batch.foldl Merge.addEntry merge).Sound ∧
      ∀ domain ip, (batch.foldl Merge.addEntry merge).Holds domain ip ↔
        merge.Holds domain ip ∨ ∃ ips, (domain, ips) ∈ batch ∧ ip ∈ ips := by
  induction batch generalizing merge with
  | nil => exact ⟨sound, by simp⟩
  | cons entry batch ih =>
      rw [List.forall_mem_cons] at areWords
      rcases sound.addEntry areWords.1.1 areWords.1.2 with ⟨first, firstHolds⟩
      rcases ih first areWords.2 with ⟨last, lastHolds⟩
      refine ⟨last, fun domain ip => ?_⟩
      rw [List.foldl_cons, lastHolds, firstHolds, or_assoc]
      apply or_congr_right
      constructor
      · rintro (⟨rfl, mem⟩ | ⟨ips, later, mem⟩)
        · exact ⟨entry.2, List.mem_cons_self, mem⟩
        · exact ⟨ips, List.mem_cons_of_mem _ later, mem⟩
      · rintro ⟨ips, here, mem⟩
        rcases List.mem_cons.mp here with rfl | later
        · exact .inl ⟨rfl, mem⟩
        · exact .inr ⟨ips, later, mem⟩

/-! ## Writing and reading again -/

theorem mem_line {domain : Text} {ips : List Text} {c : Char} (mem : c ∈ line domain ips)
    (domainWord : IsWord domain) (ipWord : ∀ ip ∈ ips, IsWord ip) :
    c = ' ' ∨ isWhitespace c = false := by
  rw [line, List.mem_append, List.mem_flatMap] at mem
  rcases mem with inDomain | ⟨ip, isIp, inIp⟩
  · exact .inr (domainWord.2 c inDomain)
  · rcases List.mem_cons.mp inIp with space | inIp
    · exact .inl space
    · exact .inr ((ipWord ip isIp).2 c inIp)

/-- Neither a line feed nor a carriage return is in a line. -/
theorem not_mem_line {domain : Text} {ips : List Text} (domainWord : IsWord domain)
    (ipWord : ∀ ip ∈ ips, IsWord ip) : '\n' ∉ line domain ips ∧ '\r' ∉ line domain ips := by
  constructor
  · intro mem
    rcases mem_line mem domainWord ipWord with eq | eq <;> contradiction
  · intro mem
    rcases mem_line mem domainWord ipWord with eq | eq <;> contradiction

theorem mapM_eq_some_map {α β : Type} {f : α → Option β} {g : α → β} {items : List α}
    (each : ∀ item ∈ items, f item = some (g item)) : items.mapM f = some (items.map g) := by
  induction items with
  | nil => rfl
  | cons item items ih =>
      rw [List.forall_mem_cons] at each
      rw [List.mapM_cons, each.1, ih each.2]
      rfl

/-- The addresses of a domain that has a line. -/
def ipsOf (merge : Merge) (domain : Text) : List Text :=
  (merge.history domain).getD []

theorem Sound.history_eq {merge : Merge} (sound : merge.Sound) {domain : Text}
    (mem : domain ∈ merge.order) : merge.history domain = some (merge.ipsOf domain) := by
  rcases (sound.ordered domain).mp mem with ⟨ips, here⟩
  rw [ipsOf, here]
  rfl

theorem Sound.ipsOf_word {merge : Merge} (sound : merge.Sound) {domain : Text}
    (mem : domain ∈ merge.order) : ∀ ip ∈ merge.ipsOf domain, IsWord ip :=
  fun ip isIp => sound.ipWord domain ip ⟨merge.ipsOf domain, sound.history_eq mem, isIp⟩

/-- Every domain in `order` has its addresses, so the lines can be written. -/
theorem Sound.render_eq {merge : Merge} (sound : merge.Sound) :
    merge.render = some ((merge.order.map fun domain => line domain (merge.ipsOf domain)).flatMap
      (· ++ ['\n'])) := by
  rw [render, mapM_eq_some_map (g := fun domain => line domain (merge.ipsOf domain))]
  · rfl
  · intro domain mem
    rw [sound.history_eq mem]
    rfl

theorem Sound.lines_render {merge : Merge} (sound : merge.Sound) {out : Text}
    (rendered : merge.render = some out) :
    lines out = merge.order.map fun domain => line domain (merge.ipsOf domain) := by
  rw [sound.render_eq] at rendered
  cases rendered
  have clean : ∀ text ∈ merge.order.map (fun domain => line domain (merge.ipsOf domain)),
      '\n' ∉ text ∧ '\r' ∉ text := by
    intro text mem
    rcases List.mem_map.mp mem with ⟨domain, ordered, rfl⟩
    exact not_mem_line (sound.domainWord domain ordered) (sound.ipsOf_word ordered)
  apply lines_flatMap
  · exact fun text mem => (clean text mem).1
  · exact fun text mem last => (clean text mem).2 (List.mem_of_getLast? last)

/-- Reading the lines of some domains sets exactly these. -/
theorem Sound.history_readLines {merge : Merge} (sound : merge.Sound) {domains : List Text}
    (ordered : ∀ domain ∈ domains, domain ∈ merge.order) (start : Merge) (domain : Text) :
    ((domains.map fun domain => line domain (merge.ipsOf domain)).foldl Merge.readLine
      start).history domain =
      if domain ∈ domains then merge.history domain else start.history domain := by
  induction domains generalizing start with
  | nil => simp
  | cons first rest ih =>
      rw [List.forall_mem_cons] at ordered
      have read : start.readLine (line first (merge.ipsOf first)) =
          start.enter first (merge.ipsOf first) (merge.ipsOf first) (start.order ++ [first]) := by
        rw [Merge.readLine, line, splitWhitespace_words (sound.domainWord first ordered.1)
          (sound.ipsOf_word ordered.1)]
      rw [List.map_cons, List.foldl_cons, read, ih ordered.2]
      by_cases later : domain ∈ rest
      · rw [if_pos later, if_pos (List.mem_cons_of_mem _ later)]
      · rw [if_neg later, history_enter]
        by_cases same : domain = first
        · subst same
          rw [if_pos rfl, if_pos List.mem_cons_self, sound.history_eq ordered.1]
        · rw [if_neg same, if_neg (by simp [same, later])]

/-- What is written is read again. -/
theorem Sound.history_readFile {merge : Merge} (sound : merge.Sound) {out : Text}
    (rendered : merge.render = some out) (domain : Text) :
    (readFile (some out)).history domain = merge.history domain := by
  rw [readFile, sound.lines_render rendered, sound.history_readLines fun _ mem => mem]
  split
  · rfl
  · rename_i absent
    rw [sound.ordered] at absent
    exact (Option.eq_none_iff_forall_ne_some.mpr fun ips here => absent ⟨ips, here⟩).symm

theorem Sound.holds_readFile_iff {merge : Merge} (sound : merge.Sound) {out : Text}
    (rendered : merge.render = some out) {domain ip : Text} :
    (readFile (some out)).Holds domain ip ↔ merge.Holds domain ip := by
  rw [Holds, Holds, sound.history_readFile rendered]

/-! ## The text of the file -/

/-- A line of the text is that of the domain and has the address. -/
def Recorded (content : Option Text) (domain ip : Text) : Prop :=
  ∃ text, content = some text ∧ ∃ entry ∈ lines text, ∃ ips,
    splitWhitespace entry = domain :: ips ∧ ip ∈ ips

/-- What `flush` finds in the file is in one of its lines. -/
theorem recorded_of_holds_readFile {content : Option Text} {domain ip : Text}
    (held : (readFile content).Holds domain ip) : Recorded content domain ip := by
  cases content with
  | none => simp [readFile, Holds, new] at held
  | some text =>
      rw [readFile] at held
      have general : ∀ (texts : List Text) (start : Merge),
          (texts.foldl Merge.readLine start).Holds domain ip → start.Holds domain ip ∨
            ∃ entry ∈ texts, ∃ ips, splitWhitespace entry = domain :: ips ∧ ip ∈ ips := by
        intro texts
        induction texts with
        | nil => exact fun _ held => .inl held
        | cons first texts ih =>
            intro start held
            rcases ih _ held with before | ⟨entry, mem, found⟩
            · rw [Merge.readLine] at before
              split at before
              · exact .inl before
              · rename_i other ips split
                rw [holds_enter] at before
                split at before
                · rename_i same
                  subst same
                  exact .inr ⟨first, List.mem_cons_self, ips, split, before⟩
                · exact .inl before
            · exact .inr ⟨entry, List.mem_cons_of_mem _ mem, found⟩
      rcases general (lines text) new held with before | found
      · simp [Holds, new] at before
      · exact ⟨text, rfl, found⟩

end Merge

end DnsHijacker.DnsRelay
