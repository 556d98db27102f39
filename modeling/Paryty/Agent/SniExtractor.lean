import Mathlib.Data.Nat.Bitwise
import Paryty.Lib.Checked
import Paryty.Lib.RustString

/-!
# The server name of a TLS ClientHello

`SniExtractor` of `agent/src/ebpf/http_inspector.rs`: reads the host name out of the server_name
extension of a captured ClientHello.

* `extractSni` is the program, with every index of the source checked: `Stop.fault` is the panic of
  an index out of range, `Stop.refusal` is the source's `None`.
* `Reads data e name` says in terms of offsets what the program checks before it returns the bytes
  `name`, where `e` is the offset of the server_name extension. `extractSni_eq_ok` says that the
  program returns a text exactly when its bytes are read so.
-/

namespace Paryty.Agent.Sni

open Lib Lib.Checked Lib.RustString

/-! ## The program -/

/-- `(hi << 8) | lo`. -/
def be16 (hi lo : UInt8) : ℕ := (hi.toNat <<< 8) ||| lo.toNat

/-- `(data[i] << 8) | data[i + 1]`. -/
def u16 (data : Lib.Bytes) (i : ℕ) : Except Stop ℕ := do
  let hi ← index data i
  let lo ← index data (i + 1)
  return be16 hi lo

/-- `(data[i] << 8) | data.get(i + 1).copied().unwrap_or(0)`. -/
def u16Or (data : Lib.Bytes) (i : ℕ) : Except Stop ℕ := do
  let hi ← index data i
  return be16 hi (data.getD (i + 1) 0)

/-- `(data[i] << 16) | (data[i + 1] << 8) | data[i + 2]`. -/
def u24 (data : Lib.Bytes) (i : ℕ) : Except Stop ℕ := do
  let hi ← index data i
  let mid ← index data (i + 1)
  let lo ← index data (i + 2)
  return ((hi.toNat <<< 16) ||| (mid.toNat <<< 8)) ||| lo.toNat

/-- `extract_sni`: the headers of the record and of the handshake message. -/
def headers (data : Lib.Bytes) : Except Stop Unit := do
  refuse (data.length < 44)
  let kind ← index data 0
  refuse (kind ≠ 0x16)
  let major ← index data 1
  let minor ← index data 2
  refuse (major < 0x03 ∨ (major = 0x03 ∧ minor < 0x01))
  let recordLen ← u16 data 3
  refuse (data.length < 5 + recordLen)
  let message ← index data 5
  refuse (message ≠ 0x01)
  let handshakeLen ← u24 data 6
  refuse (data.length < 9 + handshakeLen)

/-- `extract_sni`: the offset of the extensions' length. -/
def skipToExtensions (data : Lib.Bytes) : Except Stop ℕ := do
  refuse (data.length ≤ 43)
  let sessionIdLen ← index data 43
  let offset := 43 + (1 + sessionIdLen.toNat)
  refuse (data.length < offset + 2)
  let cipherSuitesLen ← u16Or data offset
  let offset := offset + (2 + cipherSuitesLen)
  refuse (data.length ≤ offset)
  let compressionLen ← index data offset
  return offset + (1 + compressionLen.toNat)

/-- `parse_sni_extension`. -/
def parseSniExtension (data : Lib.Bytes) : Except Stop String := do
  refuse (data.length < 5)
  let listLen ← u16 data 0
  refuse (data.length < listLen + 2)
  let nameType ← index data 2
  refuse (nameType ≠ 0)
  let hostnameLen ← u16 data 3
  refuse (data.length < 5 + hostnameLen)
  let bytes ← range data 5 (5 + hostnameLen)
  found (fromUtf8 bytes)

/-- `extract_sni`: the loop over the extensions, from `offset`. -/
def extensions (data : Lib.Bytes) (extensionsEnd offset : ℕ) : Except Stop String :=
  if offset + 4 ≤ extensionsEnd then do
    let extType ← u16Or data offset
    let extLen := be16 (data.getD (offset + 2) 0) (data.getD (offset + 3) 0)
    let extEnd := offset + 4 + extLen
    refuse (extensionsEnd < extEnd)
    if extType = 0 then do
      let extension ← range data (offset + 4) extEnd
      parseSniExtension extension
    else
      extensions data extensionsEnd extEnd
  else
    .error .refusal
termination_by extensionsEnd - offset

/-- `extract_sni`. -/
def extractSni (data : Lib.Bytes) : Except Stop String := do
  headers data
  let offset ← skipToExtensions data
  refuse (data.length < offset + 2)
  let extensionsLen ← u16Or data offset
  refuse (data.length < offset + 2 + extensionsLen)
  extensions data (offset + 2 + extensionsLen) (offset + 2)

/-! ## Offsets -/

open Lib.Wire

/-- The end of the record. -/
def recordEnd (data : Lib.Bytes) : ℕ := 5 + number data 3 2

/-- The end of the handshake message. -/
def handshakeEnd (data : Lib.Bytes) : ℕ := 9 + number data 6 3

/-- The offset of the cipher suites' length. -/
def cipherSuitesAt (data : Lib.Bytes) : ℕ := 44 + number data 43 1

/-- The offset of the compression methods' length. -/
def compressionAt (data : Lib.Bytes) : ℕ :=
  cipherSuitesAt data + 2 + number data (cipherSuitesAt data) 2

/-- The offset of the extensions' length. -/
def extensionsAt (data : Lib.Bytes) : ℕ :=
  compressionAt data + 1 + number data (compressionAt data) 1

/-- The end of the extensions. -/
def extensionsEnd (data : Lib.Bytes) : ℕ :=
  extensionsAt data + 2 + number data (extensionsAt data) 2

/-- The end of the extension at `e`. -/
def extensionEnd (data : Lib.Bytes) (e : ℕ) : ℕ := e + 4 + number data (e + 2) 2

/-- The end of the server_name list in the extension at `e`. -/
def listEnd (data : Lib.Bytes) (e : ℕ) : ℕ := e + 6 + number data (e + 4) 2

/-- The end of the host name in the extension at `e`. -/
def nameEnd (data : Lib.Bytes) (e : ℕ) : ℕ := e + 9 + number data (e + 7) 2

/-- From the extension at `o` the loop comes to the one at `e`: those it passes are of other types
and end before `stop`. -/
inductive Walk (data : Lib.Bytes) (stop : ℕ) : ℕ → ℕ → Prop
  | here (e : ℕ) : Walk data stop e e
  | skip {o e : ℕ} (header : o + 4 ≤ stop) (other : number data o 2 ≠ 0)
      (fits : extensionEnd data o ≤ stop) (rest : Walk data stop (extensionEnd data o) e) :
      Walk data stop o e

/-- The headers that the program asks for. -/
structure Headers (data : Lib.Bytes) : Prop where
  long : 44 ≤ data.length
  handshake : number data 0 1 = 0x16
  version : 3 < number data 1 1 ∨ (number data 1 1 = 3 ∧ 1 ≤ number data 2 1)
  record : recordEnd data ≤ data.length
  clientHello : number data 5 1 = 1
  message : handshakeEnd data ≤ data.length

/-- `name` is the host name in the server_name extension that starts at `i` and ends at `j`. -/
structure Extension (data : Lib.Bytes) (i j : ℕ) (name : Lib.Bytes) : Prop where
  long : i + 5 ≤ j
  list : i + 2 + number data i 2 ≤ j
  hostName : number data (i + 2) 1 = 0
  entry : i + 5 + number data (i + 3) 2 ≤ j
  name : name = slice data (i + 5) (i + 5 + number data (i + 3) 2)

/-- From the extension at `o` the loop comes to a server_name extension at `e` that ends before
`stop`, and `name` is the host name in it. -/
structure ServerName (data : Lib.Bytes) (stop o e : ℕ) (name : Lib.Bytes) : Prop where
  walk : Walk data stop o e
  header : e + 4 ≤ stop
  serverName : number data e 2 = 0
  fits : extensionEnd data e ≤ stop
  extension : Extension data (e + 4) (extensionEnd data e) name

/-- `name` is the host name that the program finds, in the extension at `e`. -/
structure Reads (data : Lib.Bytes) (e : ℕ) (name : Lib.Bytes) : Prop where
  headers : Headers data
  extensions : extensionsEnd data ≤ data.length
  serverName : ServerName data (extensionsEnd data) (extensionsAt data + 2) e name

variable {data name : Lib.Bytes} {i j stop o e : ℕ}

/-! ## What each part computes -/

lemma be16_eq (hi lo : UInt8) : be16 hi lo = hi.toNat * 256 + lo.toNat := by
  have hlo : lo.toNat < 2 ^ 8 := lo.toNat_lt
  rw [be16, ← Nat.shiftLeft_add_eq_or_of_lt hlo, Nat.shiftLeft_eq]

lemma be24_eq (hi mid lo : UInt8) : ((hi.toNat <<< 16) ||| (mid.toNat <<< 8)) ||| lo.toNat =
    hi.toNat * 65536 + mid.toNat * 256 + lo.toNat := by
  have hmid : mid.toNat <<< 8 < 2 ^ 16 := by
    have hlt : mid.toNat < 256 := mid.toNat_lt
    rw [Nat.shiftLeft_eq]
    omega
  have hhead : hi.toNat * 65536 + mid.toNat * 256 = (hi.toNat * 256 + mid.toNat) <<< 8 := by
    rw [Nat.shiftLeft_eq]
    omega
  have hlo : lo.toNat < 2 ^ 8 := lo.toNat_lt
  rw [← Nat.shiftLeft_add_eq_or_of_lt hmid, Nat.shiftLeft_eq, Nat.shiftLeft_eq, hhead,
    ← Nat.shiftLeft_add_eq_or_of_lt hlo]

lemma computes_u16 (h : i + 1 < data.length) :
    Computes (u16 data i) fun n => n = number data i 2 := by
  rw [number_pair h, ← be16_eq]
  exact (computes_index (by omega)).step ((computes_index h).step (computes_ok _))

lemma computes_u16Or (h : i + 1 < data.length) :
    Computes (u16Or data i) fun n => n = number data i 2 := by
  rw [number_pair h, ← be16_eq]
  exact (computes_index (by omega)).step (computes_ok _)

lemma computes_u24 (h : i + 2 < data.length) :
    Computes (u24 data i) fun n => n = number data i 3 := by
  rw [number_triple h, ← be24_eq]
  exact (computes_index (by omega)).step
    ((computes_index (by omega)).step ((computes_index h).step (computes_ok _)))

lemma byte_eq_iff (h : i < data.length) {b : UInt8} :
    data.getD i 0 = b ↔ number data i 1 = b.toNat := by
  rw [number_byte h, UInt8.toNat_inj]

lemma version_iff (major minor : UInt8) : ¬ (major < 0x03 ∨ (major = 0x03 ∧ minor < 0x01)) ↔
    3 < major.toNat ∨ (major.toNat = 3 ∧ 1 ≤ minor.toNat) := by
  rw [UInt8.lt_iff_toNat_lt, UInt8.lt_iff_toNat_lt, ← UInt8.toNat_inj]
  have hthree : (0x03 : UInt8).toNat = 3 := rfl
  have hone : (0x01 : UInt8).toNat = 1 := rfl
  omega

theorem computes_headers : Computes (headers data) fun _ => Headers data := by
  have hparts : Computes (headers data) fun _ => ¬ data.length < 44 ∧ ¬ data.getD 0 0 ≠ 0x16 ∧
      ¬ (data.getD 1 0 < 0x03 ∨ (data.getD 1 0 = 0x03 ∧ data.getD 2 0 < 0x01)) ∧
      ¬ data.length < recordEnd data ∧ ¬ data.getD 5 0 ≠ 0x01 ∧
      ¬ data.length < handshakeEnd data := by
    refine Computes.refuse_bind fun hlong => ?_
    refine (computes_index (by omega)).step (Computes.refuse_bind fun _ => ?_)
    refine (computes_index (by omega)).step ((computes_index (by omega)).step ?_)
    refine Computes.refuse_bind fun _ => (computes_u16 (by omega)).step ?_
    refine Computes.refuse_bind fun _ => (computes_index (by omega)).step ?_
    exact Computes.refuse_bind fun _ => (computes_u24 (by omega)).step computes_refuse
  refine hparts.congr fun _ => ?_
  constructor
  · rintro ⟨hlong, hkind, hversion, hrecord, hmessage, hhandshake⟩
    have hlong : 44 ≤ data.length := by omega
    refine ⟨hlong, (byte_eq_iff (by omega)).mp (not_not.mp hkind), ?_, by omega,
      (byte_eq_iff (by omega)).mp (not_not.mp hmessage), by omega⟩
    rw [number_byte (by omega), number_byte (by omega)]
    exact (version_iff _ _).mp hversion
  · rintro ⟨hlong, hkind, hversion, hrecord, hmessage, hhandshake⟩
    refine ⟨by omega, not_not.mpr ((byte_eq_iff (by omega)).mpr hkind), ?_, by omega,
      not_not.mpr ((byte_eq_iff (by omega)).mpr hmessage), by omega⟩
    rw [number_byte (by omega), number_byte (by omega)] at hversion
    exact (version_iff _ _).mpr hversion

theorem computes_skipToExtensions (hlong : 44 ≤ data.length) :
    Computes (skipToExtensions data) fun offset =>
      cipherSuitesAt data + 2 ≤ data.length ∧ compressionAt data < data.length ∧
        offset = extensionsAt data := by
  have hsession : 43 + (1 + (data.getD 43 0).toNat) = cipherSuitesAt data := by
    rw [cipherSuitesAt, number_byte (by omega)]
    omega
  have hparts : Computes (skipToExtensions data) fun offset => ¬ data.length ≤ 43 ∧
      ¬ data.length < cipherSuitesAt data + 2 ∧ ¬ data.length ≤ compressionAt data ∧
        offset = extensionsAt data := by
    refine Computes.refuse_bind fun _ => (computes_index (by omega)).step ?_
    rw [hsession]
    refine Computes.refuse_bind fun _ => (computes_u16Or (by omega)).step ?_
    have hcompression : cipherSuitesAt data + (2 + number data (cipherSuitesAt data) 2) =
        compressionAt data := by
      rw [compressionAt]
      omega
    rw [hcompression]
    refine Computes.refuse_bind fun hat => ?_
    rw [extensionsAt, number_byte (by omega), Nat.add_assoc]
    exact (computes_index (by omega)).step (computes_ok _)
  refine hparts.congr fun offset => ?_
  omega

/-- What `parse_sni_extension` reads in the bytes from `i` to before `j`. -/
theorem computes_parseSniExtension (hj : j ≤ data.length) :
    Computes (parseSniExtension (slice data i j)) fun name => Extension data i j (utf8 name) := by
  have hlength := length_slice (i := i) hj
  generalize hpart : slice data i j = part at hlength
  have hparts : Computes (parseSniExtension part) fun name => ¬ part.length < 5 ∧
      ¬ part.length < number part 0 2 + 2 ∧ ¬ part.getD 2 0 ≠ 0 ∧
        ¬ part.length < 5 + number part 3 2 ∧
          fromUtf8 (slice part 5 (5 + number part 3 2)) = some name := by
    refine Computes.refuse_bind fun hlong => (computes_u16 (by omega)).step ?_
    refine Computes.refuse_bind fun _ => (computes_index (by omega)).step ?_
    refine Computes.refuse_bind fun _ => (computes_u16 (by omega)).step ?_
    refine Computes.refuse_bind fun hentry => ?_
    exact (computes_range (by omega) (by omega)).step computes_found
  -- the offsets of the part are those of the data, moved by `i`
  have hat {n width : ℕ} (h : i + n + width ≤ j) :
      number part n width = number data (i + n) width :=
    hpart ▸ number_slice h
  have hlist₀ (h : i + 2 ≤ j) : number part 0 2 = number data i 2 := hat h
  have hname {n m : ℕ} (h : i + m ≤ j) : slice part n m = slice data (i + n) (i + m) :=
    hpart ▸ slice_slice h
  refine hparts.congr fun name => ?_
  rw [fromUtf8_eq_some]
  constructor
  · rintro ⟨hlong, hlist, htype, hentry, hbytes⟩
    have hlong : i + 5 ≤ j := by omega
    rw [hlist₀ (by omega)] at hlist
    rw [hat (by omega)] at hentry hbytes
    rw [hname (by omega)] at hbytes
    refine ⟨hlong, by omega, ?_, by omega, ?_⟩
    · rw [← hat (by omega)]
      exact (byte_eq_iff (by omega)).mp (not_not.mp htype)
    · rw [← hbytes, Nat.add_assoc]
  · rintro ⟨hlong, hlist, htype, hentry, hbytes⟩
    rw [hlist₀ (by omega), hat (by omega), hname (by omega)]
    refine ⟨by omega, by omega, not_not.mpr ((byte_eq_iff (by omega)).mpr ?_), by omega, ?_⟩
    · rw [hat (by omega)]
      exact htype
    · rw [hbytes, Nat.add_assoc]

lemma ServerName.header_le (h : ServerName data stop o e name) : o + 4 ≤ stop := by
  cases h.walk with
  | here => exact h.header
  | skip header _ _ _ => exact header

lemma serverName_here_iff (htype : number data o 2 = 0) : ServerName data stop o e name ↔
    e = o ∧ o + 4 ≤ stop ∧ extensionEnd data o ≤ stop ∧
      Extension data (o + 4) (extensionEnd data o) name := by
  constructor
  · intro h
    cases h.walk with
    | here => exact ⟨rfl, h.header, h.fits, h.extension⟩
    | skip _ other _ _ => exact absurd htype other
  · rintro ⟨rfl, header, fits, extension⟩
    exact ⟨.here _, header, htype, fits, extension⟩

lemma serverName_skip_iff (htype : number data o 2 ≠ 0) : ServerName data stop o e name ↔
    o + 4 ≤ stop ∧ extensionEnd data o ≤ stop ∧
      ServerName data stop (extensionEnd data o) e name := by
  constructor
  · intro h
    cases h.walk with
    | here => exact absurd h.serverName htype
    | skip header _ fits rest => exact ⟨header, fits, { h with walk := rest }⟩
  · rintro ⟨header, fits, h⟩
    exact { h with walk := .skip header htype fits h.walk }

/-- What the loop computes: the invariant is that the walk so far has met no server_name. -/
theorem computes_extensions (hstop : stop ≤ data.length) (o : ℕ) :
    Computes (extensions data stop o) fun name => ∃ e, ServerName data stop o e (utf8 name) := by
  induction hfuel : stop - o using Nat.strong_induction_on generalizing o with
  | _ fuel ih =>
    rw [extensions]
    split
    case isFalse hheader =>
      refine computes_refusal.congr fun name => ⟨False.elim, ?_⟩
      rintro ⟨e, h⟩
      exact hheader h.header_le
    case isTrue hheader =>
      have hlen : be16 (data.getD (o + 2) 0) (data.getD (o + 3) 0) = number data (o + 2) 2 := by
        rw [number_pair (by omega), be16_eq]
      rw [hlen]
      refine ((computes_u16Or (by omega)).step (Computes.refuse_bind
        (Q := fun name => ∃ e, ServerName data stop o e (utf8 name)) fun hfits => ?_)).congr
          fun name => ⟨fun h => h.2, fun h => ⟨?_, h⟩⟩
      · split
        case isTrue htype =>
          refine ((computes_range (by omega) (by omega)).step
            (computes_parseSniExtension (by omega))).congr fun name => ?_
          simp only [serverName_here_iff htype, exists_eq_left]
          exact ⟨fun h => ⟨hheader, Nat.le_of_not_lt hfits, h⟩, fun h => h.2.2⟩
        case isFalse htype =>
          refine (ih _ (by omega) _ rfl).congr fun name => exists_congr fun e => ?_
          rw [serverName_skip_iff htype]
          exact ⟨fun h => ⟨hheader, Nat.le_of_not_lt hfits, h⟩, fun h => h.2.2⟩
      · -- an extension that ends too late is not passed and not read
        obtain ⟨e, h⟩ := h
        by_cases htype : number data o 2 = 0
        · exact Nat.not_lt.mpr ((serverName_here_iff htype).mp h).2.2.1
        · exact Nat.not_lt.mpr ((serverName_skip_iff htype).mp h).2.1

/-- What the program computes: it has no fault, and it returns a text exactly where it reads the
text's bytes. -/
theorem computes_extractSni :
    Computes (extractSni data) fun name => ∃ e, Reads data e (utf8 name) := by
  have hparts : Computes (extractSni data) fun name => ∃ _ : Unit, Headers data ∧
      ∃ offset, (cipherSuitesAt data + 2 ≤ data.length ∧ compressionAt data < data.length ∧
        offset = extensionsAt data) ∧ ¬ data.length < extensionsAt data + 2 ∧
          ¬ data.length < extensionsEnd data ∧
            ∃ e, ServerName data (extensionsEnd data) (extensionsAt data + 2) e (utf8 name) := by
    refine computes_headers.bind fun _ headers => ?_
    refine (computes_skipToExtensions headers.long).bind fun offset h => ?_
    obtain ⟨_, _, rfl⟩ := h
    refine Computes.refuse_bind fun _ => (computes_u16Or (by omega)).step ?_
    exact Computes.refuse_bind fun hend => computes_extensions (Nat.le_of_not_lt hend) _
  refine hparts.congr fun name => ?_
  constructor
  · rintro ⟨_, headers, _, _, _, hend, e, h⟩
    exact ⟨e, headers, Nat.le_of_not_lt hend, h⟩
  · rintro ⟨e, headers, hend, h⟩
    have hcompression : extensionsEnd data = extensionsAt data + 2 +
        number data (extensionsAt data) 2 := rfl
    have hat : extensionsAt data = compressionAt data + 1 +
        number data (compressionAt data) 1 := rfl
    have hsuites : compressionAt data = cipherSuitesAt data + 2 +
        number data (cipherSuitesAt data) 2 := rfl
    exact ⟨(), headers, _, ⟨by omega, by omega, rfl⟩, by omega, Nat.not_lt.mpr hend, e, h⟩

end Paryty.Agent.Sni
