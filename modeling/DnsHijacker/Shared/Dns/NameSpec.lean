import DnsHijacker.Shared.Dns.Name
import DnsHijacker.Wire.Name

/-!
# What the name readers return on encoded names

`parseDomain` joins the labels of one run by dots but writes the runs of a
compressed name directly one after the other, and it takes a target it cannot
read for an empty one.
-/

namespace DnsHijacker.Shared.Dns

open DnsHijacker.Rust
open DnsHijacker.Library
open DnsHijacker.Wire

variable {ucd : UnicodeData}

/-! ## Tokens of encoded names -/

theorem and_C0_of_lt {len : Nat} (short : len < 64) : len &&& 0xC0 ≠ 0xC0 := by
  have all : ∀ len < 64, len &&& 0xC0 ≠ 0xC0 := by decide
  exact all len short

theorem nameToken_of_root {payload : Bytes} {offset : Nat} (occurs : Occurs payload offset [0]) :
    nameToken payload offset = .root := by
  have found := (occurs_cons.mp occurs).1
  rw [nameToken, found]
  rfl

/-- A label of up to 63 octets is a token if it is UTF-8. -/
theorem nameToken_of_label {payload : Bytes} {offset : Nat} {label : Label}
    (occurs : Occurs payload offset label.encode) :
    nameToken payload offset =
      match fromUtf8 label.bytes with
      | none => .malformed
      | some text => .label text (offset + label.encode.length) := by
  rcases occurs_cons.mp occurs with ⟨found, body⟩
  have inside := body.add_length_le label.nonempty
  have short := label.short
  have positive := label.length_pos
  have slice := body.take_drop
  rw [nameToken, found]
  dsimp only
  rw [label.toNat_ofNat_length, if_neg (and_C0_of_lt (by omega)), if_neg (by omega),
    if_neg (by omega), slice]
  cases fromUtf8 label.bytes with
  | none => rfl
  | some text =>
      dsimp only
      rw [label.length_encode, Nat.add_assoc]

theorem nameToken_of_utf8 {payload : Bytes} {offset : Nat} {label : Label}
    (occurs : Occurs payload offset label.encode) (utf8 : label.IsUtf8) :
    nameToken payload offset = .label label.text (offset + label.encode.length) := by
  rw [nameToken_of_label occurs, utf8.fromUtf8_eq]

theorem nameToken_of_not_utf8 {payload : Bytes} {offset : Nat} {label : Label}
    (occurs : Occurs payload offset label.encode) (invalid : ¬ label.IsUtf8) :
    nameToken payload offset = .malformed := by
  rw [nameToken_of_label occurs]
  cases decoded : fromUtf8 label.bytes with
  | none => rfl
  | some text => exact absurd ⟨text, decoded⟩ invalid

/-- The two octets of a pointer hold its 14-bit target. -/
theorem pointer_target {target : Nat} (small : target < 0x4000) :
    (UInt8.ofNat (0xC0 + target / 256)).toNat &&& 0xC0 = 0xC0 ∧
      (((UInt8.ofNat (0xC0 + target / 256)).toNat &&& 0x3F) <<< 8) |||
        (UInt8.ofNat (target % 256)).toNat = target := by
  have high : target / 256 < 64 := by omega
  have low : target % 256 < 256 := Nat.mod_lt _ (by decide)
  have highByte : (UInt8.ofNat (0xC0 + target / 256)).toNat = 0xC0 + target / 256 := by
    rw [UInt8.toNat_ofNat']
    omega
  have lowByte : (UInt8.ofNat (target % 256)).toNat = target % 256 := by
    rw [UInt8.toNat_ofNat']
    omega
  have flags : ∀ h < 64, (0xC0 + h) &&& 0xC0 = 0xC0 := by decide
  have bits : ∀ h < 64, (0xC0 + h) &&& 0x3F = h := by decide
  rw [highByte, lowByte, flags _ high, bits _ high, Nat.shiftLeft_eq,
    Nat.mul_comm, ← Nat.two_pow_add_eq_or_of_lt low]
  exact ⟨rfl, Nat.div_add_mod target 256⟩

theorem nameToken_of_pointer {payload : Bytes} {offset target : Nat} (small : target < 0x4000)
    (occurs : Occurs payload offset (pointerBytes target)) :
    nameToken payload offset = .pointer target := by
  rcases occurs_cons.mp occurs with ⟨first, tail⟩
  rcases occurs_cons.mp tail with ⟨second, _⟩
  rcases pointer_target small with ⟨flags, bits⟩
  rw [nameToken, first]
  dsimp only
  rw [if_pos flags, second]
  dsimp only
  rw [bits]

/-! ## The text of a name -/

/-- The labels of a name in lower case, joined by dots. -/
def dottedName (ucd : UnicodeData) (labels : List Label) : Text :=
  List.intercalate ['.'] (labels.map fun label => ucd.toLowercase label.text)

/-- The text `parse_domain` makes of a name: its runs one after the other. -/
def spelledName (ucd : UnicodeData) (runs : List (List Label)) : Text :=
  runs.flatMap (dottedName ucd)

/-- The dots of one run of the label loop. -/
def joinRun (ucd : UnicodeData) (domain : Text) (run : List Label) : Text :=
  run.foldl (fun domain label => joinLabel ucd domain label.text) domain

theorem joinRun_of_ne_nil {domain : Text} (started : domain ≠ []) (run : List Label) :
    joinRun ucd domain run =
      domain ++ run.flatMap fun label => '.' :: ucd.toLowercase label.text := by
  induction run generalizing domain with
  | nil => simp [joinRun]
  | cons label run ih =>
      have grown : joinLabel ucd domain label.text =
          domain ++ '.' :: ucd.toLowercase label.text := by
        simp [joinLabel, started]
      have stillStarted : joinLabel ucd domain label.text ≠ [] := by simp [grown]
      calc
        joinRun ucd domain (label :: run)
          = joinRun ucd (joinLabel ucd domain label.text) run := rfl
        _ = _ := by rw [ih stillStarted, grown, List.flatMap_cons, List.append_assoc]

theorem dottedName_cons (label : Label) (labels : List Label) :
    dottedName ucd (label :: labels) =
      ucd.toLowercase label.text ++
        labels.flatMap fun label => '.' :: ucd.toLowercase label.text := by
  rw [dottedName, List.map_cons, intercalate_cons, List.flatMap_map]
  rfl

theorem dottedName_append {first second : List Label} (firstNonempty : first ≠ [])
    (secondNonempty : second ≠ []) :
    dottedName ucd (first ++ second) = dottedName ucd first ++ '.' :: dottedName ucd second := by
  cases first with
  | nil => contradiction
  | cons label first =>
      cases second with
      | nil => contradiction
      | cons next second =>
          rw [List.cons_append, dottedName_cons, dottedName_cons, dottedName_cons,
            List.flatMap_append, List.flatMap_cons]
          simp

/-- The text of a name is in lower case. -/
theorem stable_of_mem_dottedName {labels : List Label} :
    ∀ c ∈ dottedName ucd labels, ucd.Stable c := by
  have dot : ucd.Stable '.' := ⟨by decide, ucd.toLower_ascii '.' (by decide)⟩
  cases labels with
  | nil =>
      intro c mem
      contradiction
  | cons label labels =>
      intro c mem
      rw [dottedName_cons, List.mem_append, List.mem_flatMap] at mem
      rcases mem with first | ⟨next, _, later⟩
      · exact UnicodeData.stable_of_mem_toLowercase c first
      · rcases List.mem_cons.mp later with rfl | later
        · exact dot
        · exact UnicodeData.stable_of_mem_toLowercase c later

/-- The label loop joins the labels of a run by dots. -/
theorem joinRun_nil {run : List Label} (utf8 : ∀ label ∈ run, label.IsUtf8) :
    joinRun ucd [] run = dottedName ucd run := by
  cases run with
  | nil => rfl
  | cons label run =>
      have first : joinLabel ucd [] label.text = ucd.toLowercase label.text := by
        simp [joinLabel]
      have started : ucd.toLowercase label.text ≠ [] := by
        rw [ne_eq, UnicodeData.toLowercase_eq_nil_iff]
        exact (utf8 label List.mem_cons_self).text_ne_nil
      calc
        joinRun ucd [] (label :: run)
          = joinRun ucd (joinLabel ucd [] label.text) run := rfl
        _ = dottedName ucd (label :: run) := by
          rw [first, joinRun_of_ne_nil started, dottedName_cons]

/-- An ASCII label in lower case. -/
theorem toLowercase_text_of_isAscii (ucd : UnicodeData) {label : Label} (ascii : IsAscii label.bytes) :
    ucd.toLowercase label.text = label.bytes.map fun byte => asciiChar (toAsciiLowercase byte) := by
  have asciiText : ∀ c ∈ label.bytes.map asciiChar, c.toNat < 128 := by
    intro c mem
    rcases List.mem_map.mp mem with ⟨byte, byteMem, rfl⟩
    rw [asciiChar_toNat (ascii byte byteMem)]
    exact ascii byte byteMem
  rw [Label.text_of_isAscii ascii, UnicodeData.toLowercase_ascii asciiText, List.map_map]
  exact List.map_congr_left fun byte mem => toLower_asciiChar (ascii byte mem)

/-- Whatever is read as a name is in lower case. -/
theorem stable_of_parseDomainFrom {payload : Bytes} {fuel offset : Nat} {domain name : Text}
    {stop : Nat} (started : ∀ c ∈ domain, ucd.Stable c)
    (returned : parseDomainFrom ucd payload fuel offset domain = .ok (some (name, stop))) :
    ∀ c ∈ name, ucd.Stable c := by
  have dot : ucd.Stable '.' := ⟨by decide, ucd.toLower_ascii '.' (by decide)⟩
  induction fuel generalizing offset domain name stop with
  | zero => contradiction
  | succ fuel ih =>
      rw [parseDomainFrom_succ] at returned
      cases token : nameToken payload offset with
      | malformed => simp [token] at returned
      | root =>
          simp only [token, Except.ok.injEq, Option.some.injEq, Prod.mk.injEq] at returned
          rcases returned with ⟨rfl, _⟩
          exact started
      | label text next =>
          simp only [token] at returned
          apply ih _ returned
          intro c mem
          rw [joinLabel, List.mem_append] at mem
          rcases mem with before | here
          · split at before
            · exact started c before
            · rcases List.mem_append.mp before with old | new
              · exact started c old
              · cases List.mem_singleton.mp new
                exact dot
          · exact UnicodeData.stable_of_mem_toLowercase c here
      | pointer target =>
          simp only [token] at returned
          cases inner : parseDomainFrom ucd payload fuel target [] with
          | error fault => simp [inner, Except.map] at returned
          | ok behind =>
              rw [inner] at returned
              cases behind with
              | none =>
                  cases returned
                  exact started
              | some found =>
                  rcases found with ⟨subDomain, after⟩
                  cases returned
                  intro c mem
                  rcases List.mem_append.mp mem with old | new
                  · exact started c old
                  · exact ih (fun d empty => absurd empty List.not_mem_nil) inner c new

theorem stable_of_parseDomain {payload : Bytes} {offset : Nat} {name : Text} {stop : Nat}
    (parsed : parseDomain ucd payload offset = .ok (some (name, stop))) :
    ∀ c ∈ name, ucd.Stable c :=
  stable_of_parseDomainFrom (fun _ empty => absurd empty List.not_mem_nil) parsed

/-! ## Reading an encoded name -/

/-- The reader at an encoded name: the first run continues the text read so
far, and every later run is spelled on its own. -/
theorem parseDomainFrom_nameAt {payload : Bytes} {offset stop : Nat} {runs : List (List Label)}
    (nameAt : NameAt payload offset runs stop)
    (utf8 : ∀ run ∈ runs, ∀ label ∈ run, label.IsUtf8) :
    ∃ fuel, ∀ domain, parseDomainFrom ucd payload fuel offset domain =
      .ok (some (joinRun ucd domain (runs.headD []) ++ spelledName ucd runs.tail, stop)) := by
  induction nameAt with
  | root here =>
      refine ⟨1, fun domain => ?_⟩
      rw [parseDomainFrom_succ, nameToken_of_root here]
      simp [joinRun, spelledName]
  | @label offset stop label run runs here rest ih =>
      have labelUtf8 : label.IsUtf8 := utf8 _ List.mem_cons_self _ List.mem_cons_self
      have restUtf8 : ∀ other ∈ run :: runs, ∀ label ∈ other, label.IsUtf8 := by
        intro other otherMem next nextMem
        rcases List.mem_cons.mp otherMem with rfl | later
        · exact utf8 _ List.mem_cons_self next (List.mem_cons_of_mem _ nextMem)
        · exact utf8 other (List.mem_cons_of_mem _ later) next nextMem
      rcases ih restUtf8 with ⟨fuel, parsed⟩
      refine ⟨fuel + 1, fun domain => ?_⟩
      rw [parseDomainFrom_succ, nameToken_of_utf8 here labelUtf8]
      exact parsed (joinLabel ucd domain label.text)
  | @pointer offset target stop runs here small rest ih =>
      have restUtf8 : ∀ run ∈ runs, ∀ label ∈ run, label.IsUtf8 :=
        fun run mem => utf8 run (List.mem_cons_of_mem _ mem)
      rcases ih restUtf8 with ⟨fuel, parsed⟩
      refine ⟨fuel + 1, fun domain => ?_⟩
      rw [parseDomainFrom_succ, nameToken_of_pointer small here]
      simp only [parsed, Except.map, joinTarget]
      cases runs with
      | nil => exact absurd rfl rest.runs_ne_nil
      | cons run runs =>
          have head : joinRun ucd [] run = dottedName ucd run :=
            joinRun_nil (restUtf8 run List.mem_cons_self)
          simp [spelledName, joinRun, ← head]

/-- `parse_domain` on an encoded name with UTF-8 labels. -/
theorem parseDomain_nameAt {payload : Bytes} {offset stop : Nat} {runs : List (List Label)}
    (nameAt : NameAt payload offset runs stop)
    (utf8 : ∀ run ∈ runs, ∀ label ∈ run, label.IsUtf8) :
    parseDomain ucd payload offset = .ok (some (spelledName ucd runs, stop)) := by
  rcases parseDomainFrom_nameAt nameAt utf8 with ⟨fuel, parsed⟩
  apply parseDomain_eq_of_fuel
  rw [parsed]
  cases runs with
  | nil => exact absurd rfl nameAt.runs_ne_nil
  | cons run runs =>
      have head : joinRun ucd [] run = dottedName ucd run :=
        joinRun_nil (utf8 run List.mem_cons_self)
      simp [spelledName, head]

/-- `parse_domain` on an uncompressed name with UTF-8 labels. -/
theorem parseDomain_encodeName {payload : Bytes} {offset : Nat} {labels : List Label}
    (occurs : Occurs payload offset (encodeName labels))
    (utf8 : ∀ label ∈ labels, label.IsUtf8) :
    parseDomain ucd payload offset =
      .ok (some (dottedName ucd labels, offset + (encodeName labels).length)) := by
  rw [parseDomain_nameAt (nameAt_encodeName occurs) (by simpa using utf8)]
  simp [spelledName]

/-- A label that is not UTF-8 makes the whole uncompressed name unreadable. -/
theorem parseDomain_not_utf8 {payload : Bytes} {offset : Nat} {labels : List Label}
    (occurs : Occurs payload offset (encodeName labels))
    (invalid : ∃ label ∈ labels, ¬ label.IsUtf8) :
    parseDomain ucd payload offset = .ok none := by
  suffices general : ∃ fuel, ∀ domain,
      parseDomainFrom ucd payload fuel offset domain = .ok none by
    rcases general with ⟨fuel, parsed⟩
    exact parseDomain_eq_of_fuel (parsed [])
  induction labels generalizing offset with
  | nil => simp at invalid
  | cons label labels ih =>
      rw [encodeName_cons, occurs_append] at occurs
      by_cases utf8 : label.IsUtf8
      · have later : ∃ label ∈ labels, ¬ label.IsUtf8 := by
          rcases invalid with ⟨other, mem, notUtf8⟩
          rcases List.mem_cons.mp mem with rfl | later
          · exact absurd utf8 notUtf8
          · exact ⟨other, later, notUtf8⟩
        rcases ih occurs.2 later with ⟨fuel, parsed⟩
        refine ⟨fuel + 1, fun domain => ?_⟩
        rw [parseDomainFrom_succ, nameToken_of_utf8 occurs.1 utf8]
        exact parsed _
      · refine ⟨1, fun domain => ?_⟩
        rw [parseDomainFrom_succ, nameToken_of_not_utf8 occurs.1 utf8]

/-- An encoded name is read to an end.  A reader that accepts it stops just past
it, and the reader accepts it if the labels before the first pointer are
UTF-8. -/
theorem parseDomain_firstRun (ucd : UnicodeData) {payload : Bytes} {offset stop : Nat}
    {runs : List (List Label)} (nameAt : NameAt payload offset runs stop) :
    ∃ result, parseDomain ucd payload offset = .ok result ∧
      (∀ domain nameEnd, result = some (domain, nameEnd) → nameEnd = stop) ∧
      (result.isSome ↔ FirstRunUtf8 runs) := by
  suffices general : ∃ fuel, ∀ domain, ∃ result,
      parseDomainFrom ucd payload fuel offset domain = .ok result ∧
        (∀ name nameEnd, result = some (name, nameEnd) → nameEnd = stop) ∧
        (result.isSome ↔ FirstRunUtf8 runs) by
    rcases general with ⟨fuel, parsed⟩
    rcases parsed [] with ⟨result, eq, described⟩
    exact ⟨result, parseDomain_eq_of_fuel eq, described⟩
  induction nameAt with
  | @root offset here =>
      refine ⟨1, fun domain => ⟨some (domain, offset + 1), ?_, ?_, by simp [FirstRunUtf8]⟩⟩
      · rw [parseDomainFrom_succ, nameToken_of_root here]
      · rintro name nameEnd same
        cases same
        rfl
  | @label offset stop label run runs here rest ih =>
      have first : FirstRunUtf8 ((label :: run) :: runs) ↔
          label.IsUtf8 ∧ FirstRunUtf8 (run :: runs) := by
        simp [FirstRunUtf8]
      rcases ih with ⟨fuel, parsed⟩
      refine ⟨fuel + 1, fun domain => ?_⟩
      rw [parseDomainFrom_succ, first]
      by_cases utf8 : label.IsUtf8
      · rw [nameToken_of_utf8 here utf8, and_iff_right utf8]
        exact parsed _
      · rw [nameToken_of_not_utf8 here utf8]
        refine ⟨none, rfl, ?_, by simp [utf8]⟩
        rintro name nameEnd same
        contradiction
  | @pointer offset target stop runs here small rest ih =>
      rcases ih with ⟨fuel, parsed⟩
      refine ⟨fuel + 1, fun domain => ?_⟩
      rcases parsed [] with ⟨result, eq, _⟩
      rw [parseDomainFrom_succ, nameToken_of_pointer small here]
      simp only [eq, Except.map]
      refine ⟨_, rfl, fun name nameEnd same => ?_, by simp [FirstRunUtf8]⟩
      cases result <;> cases same <;> rfl

/-- Whatever its labels are, an encoded name is read to an end, and a reader that
accepts it stops just past it. -/
theorem parseDomain_stop (ucd : UnicodeData) {payload : Bytes} {offset stop : Nat}
    {runs : List (List Label)} (nameAt : NameAt payload offset runs stop) :
    ∃ result, parseDomain ucd payload offset = .ok result ∧
      ∀ domain nameEnd, result = some (domain, nameEnd) → nameEnd = stop := by
  rcases parseDomain_firstRun ucd nameAt with ⟨result, eq, atStop, _⟩
  exact ⟨result, eq, atStop⟩

/-! ## Skipping an encoded name -/

theorem skipName_eq {buf : Bytes} {pos : Nat} {byte : UInt8} (found : buf[pos]? = some byte) :
    skipName buf pos =
      if byte.toNat = 0 then some (pos + 1)
      else if byte.toNat &&& 0xC0 = 0xC0 then some (pos + 2)
      else skipName buf (pos + (1 + byte.toNat)) := by
  rcases List.getElem?_eq_some_iff.mp found with ⟨inside, here⟩
  rw [skipName, dif_neg (Nat.not_le.mpr inside), here]

/-- `skip_name` finds the end of the written part of a name. -/
theorem skipName_form {buf : Bytes} {offset : Nat} {form : NameForm}
    (occurs : Occurs buf offset form.encode) :
    skipName buf offset = some (offset + form.encode.length) := by
  rcases form with ⟨labels, target⟩
  induction labels generalizing offset with
  | nil =>
      cases target with
      | none =>
          rw [skipName_eq (occurs_cons.mp occurs).1]
          rfl
      | some target =>
          have flags := (pointer_target target.isLt).1
          have notRoot : (UInt8.ofNat (0xC0 + target / 256)).toNat ≠ 0 := by
            intro zero
            rw [zero] at flags
            contradiction
          rw [skipName_eq (occurs_cons.mp occurs).1, if_neg notRoot, if_pos flags]
          rfl
  | cons label labels ih =>
      rw [NameForm.encode_cons, occurs_append] at occurs
      have short := label.short
      have positive := label.length_pos
      rw [skipName_eq (occurs_cons.mp occurs.1).1, label.toNat_ofNat_length, if_neg (by omega),
        if_neg (and_C0_of_lt (by omega)), ← label.length_encode, ih occurs.2, NameForm.encode_cons,
        List.length_append, Nat.add_assoc]

/-- A name is not empty, and ends at most one octet behind the buffer, where a pointer is
cut. -/
theorem skipName_bounds {buf : Bytes} {pos stop : Nat} (skipped : skipName buf pos = some stop) :
    pos < stop ∧ stop ≤ buf.length + 1 := by
  induction pos using skipName.induct buf with
  | case1 pos outside =>
      rw [skipName, dif_pos outside] at skipped
      contradiction
  | case2 pos inside len root =>
      rw [skipName, dif_neg inside, if_pos root] at skipped
      cases skipped
      omega
  | case3 pos inside len label pointer =>
      rw [skipName, dif_neg inside, if_neg label, if_pos pointer] at skipped
      cases skipped
      omega
  | case4 pos inside len label plain ih =>
      rw [skipName, dif_neg inside, if_neg label, if_neg plain] at skipped
      have later := ih skipped
      omega

/-- A buffer that has the octets of a name at the same place has its end there, whatever a pointer
in it points to. -/
theorem skipName_of_agree {buf other : Bytes} {pos stop : Nat}
    (skipped : skipName buf pos = some stop)
    (agree : ∀ i byte, pos ≤ i → i < stop → buf[i]? = some byte → other[i]? = some byte) :
    skipName other pos = some stop := by
  induction pos using skipName.induct buf with
  | case1 pos outside =>
      rw [skipName, dif_pos outside] at skipped
      contradiction
  | case2 pos inside len root =>
      have found := List.getElem?_eq_getElem (Nat.lt_of_not_le inside)
      rw [skipName_eq found, if_pos root] at skipped
      cases skipped
      rw [skipName_eq (agree pos _ (Nat.le_refl pos) (by omega) found), if_pos root]
  | case3 pos inside len label pointer =>
      have found := List.getElem?_eq_getElem (Nat.lt_of_not_le inside)
      rw [skipName_eq found, if_neg label, if_pos pointer] at skipped
      cases skipped
      rw [skipName_eq (agree pos _ (Nat.le_refl pos) (by omega) found), if_neg label,
        if_pos pointer]
  | case4 pos inside len label plain ih =>
      have found := List.getElem?_eq_getElem (Nat.lt_of_not_le inside)
      rw [skipName_eq found, if_neg label, if_neg plain] at skipped
      have later := (skipName_bounds skipped).1
      rw [skipName_eq (agree pos _ (Nat.le_refl pos) (by omega) found), if_neg label, if_neg plain]
      exact ih skipped fun i byte above => agree i byte (by omega)

end DnsHijacker.Shared.Dns
