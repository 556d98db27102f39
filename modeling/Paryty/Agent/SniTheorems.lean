import Paryty.Agent.SniExtractor

/-!
# Which names come out of a ClientHello

* `ClientHello.encode` are the bytes of a well-formed ClientHello in one record, with a host name
  first in its server_name extension. `reads_encode`: the program reads that name.
* `Inside data e` says that the name in the extension at `e` ends within every length that is
  declared for what holds it. The program compares those lengths with the data and not with one
  another: `ServerName.nameEnd_le` is what follows from its checks, and a name can lie beyond the
  record, beyond the handshake message and beyond the server_name list.
-/

namespace Paryty.Agent.Sni

open Lib Lib.Checked Lib.Wire

/-! ## Well-formed messages -/

/-- An extension. -/
structure ExtensionBytes where
  type : ℕ
  body : Lib.Bytes
deriving DecidableEq

def ExtensionBytes.encode (extension : ExtensionBytes) : Lib.Bytes :=
  numeral 2 extension.type ++ field 2 extension.body

/-- The fields of a ClientHello. `minor` is the second byte of the record's version, `others` is
what stands behind the host name in the server_name list. -/
structure HelloFields where
  minor : UInt8
  version : Lib.Bytes
  random : Lib.Bytes
  sessionId : Lib.Bytes
  cipherSuites : Lib.Bytes
  compression : Lib.Bytes
  before : List ExtensionBytes
  hostName : String
  others : Lib.Bytes
  after : List ExtensionBytes
deriving DecidableEq

namespace HelloFields

variable (hello : HelloFields)

/-- The server_name list, from the type of its first entry on. -/
def list : Lib.Bytes := [0] ++ (field 2 (utf8 hello.hostName) ++ hello.others)

/-- The extensions. -/
def extensions : Lib.Bytes :=
  hello.before.flatMap ExtensionBytes.encode ++
    (numeral 2 0 ++ (field 2 (field 2 hello.list) ++ hello.after.flatMap ExtensionBytes.encode))

/-- The body of the handshake message. -/
def body : Lib.Bytes :=
  (hello.version ++ hello.random) ++ (field 1 hello.sessionId ++ (field 2 hello.cipherSuites ++
    (field 1 hello.compression ++ field 2 hello.extensions)))

/-- The handshake message. -/
def message : Lib.Bytes := [1] ++ field 3 hello.body

/-- The record. -/
def encode : Lib.Bytes := [0x16, 0x03, hello.minor] ++ field 2 hello.message

end HelloFields

/-- A well-formed ClientHello in one record: the fields have the lengths that TLS gives them, the
host name is in the first server_name extension, and everything fits into the record. -/
structure ClientHello extends HelloFields where
  minor_pos : 1 ≤ minor.toNat
  version_length : version.length = 2
  random_length : random.length = 32
  sessionId_le : sessionId.length ≤ 32
  compression_lt : compression.length < 256
  before_type : ∀ extension ∈ before, extension.type ≠ 0 ∧ extension.type < 65536
  message_lt : toHelloFields.message.length < 65536

example : ∃ hello : ClientHello, hello.hostName = "a" :=
  ⟨{  minor := 1, version := [3, 3], random := List.replicate 32 0, sessionId := [],
      cipherSuites := [0x13, 1], compression := [0], before := [], hostName := "a", others := [],
      after := [], minor_pos := by decide, version_length := by decide, random_length := by decide,
      sessionId_le := by decide, compression_lt := by decide, before_type := by decide,
      message_lt := by decide }, rfl⟩

variable {data name rest : Lib.Bytes} {stop o e e' : ℕ}

lemma walk_encode {before : List ExtensionBytes} (h : data.drop o =
      before.flatMap ExtensionBytes.encode ++ rest)
    (htype : ∀ extension ∈ before, extension.type ≠ 0 ∧ extension.type < 65536)
    (hbody : ∀ extension ∈ before, extension.body.length < 65536)
    (hstop : o + (before.flatMap ExtensionBytes.encode).length ≤ stop) :
    Walk data stop o (o + (before.flatMap ExtensionBytes.encode).length) := by
  induction before generalizing o with
  | nil => exact .here o
  | cons extension before ih =>
    obtain ⟨hne, hlt⟩ := htype extension List.mem_cons_self
    have hlong := hbody extension List.mem_cons_self
    have hlength : extension.encode.length = 4 + extension.body.length := by
      rw [ExtensionBytes.encode, List.length_append, length_numeral hlt, length_field hlong]
      omega
    rw [List.flatMap_cons, List.length_append, hlength] at hstop ⊢
    rw [List.flatMap_cons, List.append_assoc, ExtensionBytes.encode, List.append_assoc] at h
    have hfield := drop_append h
    rw [length_numeral hlt] at hfield
    obtain ⟨hnumber, _, hnext⟩ := drop_field hfield hlong
    have hend : extensionEnd data o = o + 4 + extension.body.length := by
      rw [extensionEnd, hnumber]
    refine .skip (by omega) ?_ (by omega) ?_
    · rw [number_numeral h hlt]
      exact hne
    · rw [hend]
      have hwalk := ih (o := o + 4 + extension.body.length) hnext
        (fun x hx => htype x (List.mem_cons_of_mem _ hx))
        (fun x hx => hbody x (List.mem_cons_of_mem _ hx)) (by omega)
      rwa [show o + (4 + extension.body.length + (before.flatMap ExtensionBytes.encode).length) =
        o + 4 + extension.body.length + (before.flatMap ExtensionBytes.encode).length by omega]

namespace ClientHello

variable (hello : ClientHello)

lemma lengths : hello.list.length < 65536 ∧ (field 2 hello.list).length < 65536 ∧
    (∀ extension ∈ hello.before, extension.body.length < 65536) ∧
      hello.extensions.length < 65536 ∧ hello.cipherSuites.length < 65536 ∧
        hello.body.length < 65536 := by
  have hmessage := hello.message_lt
  have hbody : hello.body.length < 65536 := by
    rw [HelloFields.message, field] at hmessage
    simp only [List.length_append] at hmessage
    omega
  have hsum := hbody
  simp only [HelloFields.body, field, List.length_append] at hsum
  have hextensions : hello.extensions.length < 65536 := by omega
  have hparts := hextensions
  simp only [HelloFields.extensions, List.length_append] at hparts
  rw [field, List.length_append] at hparts
  have hlist : hello.list.length ≤ (field 2 hello.list).length := by
    rw [field, List.length_append]
    omega
  refine ⟨by omega, by omega, fun extension hmem => ?_, hextensions, by omega, hbody⟩
  have hle : extension.encode.length ≤
      (hello.before.flatMap ExtensionBytes.encode).length := by
    obtain ⟨front, back, hsplit⟩ := List.append_of_mem hmem
    rw [hsplit, List.flatMap_append, List.flatMap_cons]
    simp only [List.length_append]
    omega
  rw [ExtensionBytes.encode, field] at hle
  simp only [List.length_append] at hle hparts
  omega

lemma extension_encode {more : Lib.Bytes}
    (h : data.drop e = numeral 2 0 ++ (field 2 (field 2 hello.list) ++ more)) :
    number data e 2 = 0 ∧ extensionEnd data e = e + 4 + (field 2 hello.list).length ∧
      Extension data (e + 4) (extensionEnd data e) (utf8 hello.hostName) := by
  obtain ⟨hlist, hbody, _⟩ := hello.lengths
  have hzero : (0 : ℕ) < 256 ^ 2 := by norm_num
  have hfield := drop_append h
  rw [length_numeral hzero] at hfield
  obtain ⟨hlength, hcontent, -⟩ := drop_field hfield hbody
  change data.drop (e + 4) = _ at hcontent
  obtain ⟨hlistLength, hentries, -⟩ := drop_field hcontent hlist
  change data.drop (e + 6) = _ at hentries
  have hname : (utf8 hello.hostName).length < 256 ^ 2 ∧
      3 + (utf8 hello.hostName).length ≤ hello.list.length := by
    have hshort : (utf8 hello.hostName).length ≤ hello.list.length := by
      simp only [HelloFields.list, field, List.length_append]
      omega
    have hlt : (utf8 hello.hostName).length < 256 ^ 2 := Nat.lt_of_le_of_lt hshort hlist
    refine ⟨hlt, ?_⟩
    rw [HelloFields.list, List.length_append, List.length_append, length_field hlt]
    simp only [List.length_cons, List.length_nil]
    omega
  rw [HelloFields.list, List.append_assoc, List.append_assoc] at hentries
  have htype : number data (e + 6) 1 = 0 := number_eq_ofBytes hentries rfl
  obtain ⟨hnameLength, hbytes, -⟩ := drop_field (drop_append hentries) hname.1
  change number data (e + 7) 2 = _ at hnameLength
  change data.drop (e + 9) = _ at hbytes
  have hend : extensionEnd data e = e + 4 + (field 2 hello.list).length := by
    rw [extensionEnd, hlength]
  have hfieldLength : (field 2 hello.list).length = 2 + hello.list.length := length_field hlist
  refine ⟨number_numeral h hzero, hend, by omega, by omega, htype, ?_, ?_⟩
  · change e + 9 + number data (e + 7) 2 ≤ _
    omega
  · change _ = slice data (e + 9) (e + 9 + number data (e + 7) 2)
    rw [hnameLength, slice_of_drop hbytes]

lemma headers_encode (hdata : hello.encode ++ rest = data) (hlong : 44 ≤ data.length) :
    Headers data ∧ data.drop 9 = hello.body ++ rest := by
  obtain ⟨-, -, -, -, -, hbody⟩ := hello.lengths
  have h₀ : data.drop 0 = [0x16, 0x03, hello.minor] ++ (field 2 hello.message ++ rest) := by
    rw [← hdata, HelloFields.encode, List.append_assoc]
    rfl
  have hkind : data.drop 0 =
      [0x16] ++ ([0x03] ++ ([hello.minor] ++ (field 2 hello.message ++ rest))) := h₀
  have hmajor : data.drop 1 = [0x03] ++ ([hello.minor] ++ (field 2 hello.message ++ rest)) :=
    drop_append hkind
  have hminor : number data 2 1 = ofBytes [hello.minor] :=
    number_eq_ofBytes (drop_append hmajor) rfl
  obtain ⟨hrecord, hmessage, -⟩ := drop_field (drop_append h₀) hello.message_lt
  change number data 3 2 = _ at hrecord
  change data.drop 5 = _ at hmessage
  have hrecordEnd := length_of_drop hmessage (by simp [HelloFields.message])
  rw [HelloFields.message, List.append_assoc] at hmessage
  obtain ⟨hhandshake, hfields, -⟩ := drop_field (drop_append hmessage)
    (Nat.lt_of_lt_of_le hbody (by norm_num))
  change number data 6 3 = _ at hhandshake
  change data.drop 9 = _ at hfields
  have hhandshakeEnd := length_of_drop hfields (by
    intro h
    have hlength := congrArg List.length h
    simp [HelloFields.body, hello.version_length] at hlength)
  refine ⟨⟨hlong, number_eq_ofBytes hkind rfl, .inr ⟨number_eq_ofBytes hmajor rfl, ?_⟩, ?_,
    number_eq_ofBytes hmessage rfl, ?_⟩, hfields⟩
  · rw [hminor, ofBytes_singleton]
    exact hello.minor_pos
  · rwa [recordEnd, hrecord]
  · rwa [handshakeEnd, hhandshake]

lemma drop_extensionsAt (hbody : data.drop 9 = hello.body ++ rest) :
    43 ≤ extensionsAt data ∧ data.drop (extensionsAt data) = field 2 hello.extensions ++ rest := by
  obtain ⟨-, -, -, -, hsuites, -⟩ := hello.lengths
  rw [HelloFields.body, List.append_assoc] at hbody
  have hsession := drop_append hbody
  rw [List.length_append, hello.version_length, hello.random_length, List.append_assoc,
    List.append_assoc, List.append_assoc] at hsession
  obtain ⟨hlength, -, hnext⟩ := drop_field hsession
    (Nat.lt_of_le_of_lt hello.sessionId_le (by norm_num))
  have hsuitesAt : cipherSuitesAt data = 43 + 1 + hello.sessionId.length := by
    rw [cipherSuitesAt, ← hlength]
  rw [← hsuitesAt] at hnext
  obtain ⟨hlength, -, hnext⟩ := drop_field hnext hsuites
  have hcompressionAt :
      compressionAt data = cipherSuitesAt data + 2 + hello.cipherSuites.length := by
    rw [compressionAt, hlength]
  rw [← hcompressionAt] at hnext
  obtain ⟨hlength, -, hnext⟩ := drop_field hnext hello.compression_lt
  have hextensionsAt : extensionsAt data = compressionAt data + 1 + hello.compression.length := by
    rw [extensionsAt, hlength]
  rw [← hextensionsAt] at hnext
  exact ⟨by omega, hnext⟩

/-- The extensions are what stands before the server_name, the server_name and what stands behind
it. -/
lemma length_extensions : hello.extensions.length =
    (hello.before.flatMap ExtensionBytes.encode).length + (2 + (2 +
      (field 2 hello.list).length + (hello.after.flatMap ExtensionBytes.encode).length)) := by
  obtain ⟨-, hserverName, -⟩ := hello.lengths
  rw [HelloFields.extensions, List.length_append, List.length_append, List.length_append,
    length_field hserverName, length_numeral (by norm_num)]

/-- The program reads the host name of a well-formed ClientHello, whatever follows the record. -/
theorem reads_encode (hdata : hello.encode ++ rest = data) :
    ∃ e, Reads data e (utf8 hello.hostName) := by
  obtain ⟨-, -, hbefore, hextensions, -, hbodyLength⟩ := hello.lengths
  have htotal := hello.length_extensions
  have hlong : 44 ≤ data.length := by
    have hmessage : hello.message.length = 1 + (3 + hello.body.length) := by
      rw [HelloFields.message, List.length_append,
        length_field (Nat.lt_of_lt_of_le hbodyLength (by norm_num))]
      rfl
    have hfield : (field 2 hello.extensions).length = 2 + hello.extensions.length :=
      length_field hextensions
    have hrandom : 34 + hello.extensions.length ≤ hello.body.length := by
      simp only [HelloFields.body, List.length_append, hello.version_length, hello.random_length]
      omega
    rw [← hdata, HelloFields.encode, List.length_append, List.length_append,
      length_field hello.message_lt]
    simp only [List.length_cons, List.length_nil]
    omega
  obtain ⟨headers, hbody⟩ := hello.headers_encode hdata hlong
  obtain ⟨-, hnext⟩ := hello.drop_extensionsAt hbody
  obtain ⟨hlength, hcontent, -⟩ := drop_field hnext hextensions
  have hextensionsEnd : extensionsEnd data = extensionsAt data + 2 + hello.extensions.length := by
    rw [extensionsEnd, hlength]
  have hnonempty : hello.extensions ≠ [] := by
    intro h
    rw [h, List.length_nil] at htotal
    omega
  have hend := length_of_drop hcontent hnonempty
  rw [HelloFields.extensions, List.append_assoc, List.append_assoc, List.append_assoc] at hcontent
  have hwalk : Walk data (extensionsEnd data) _ _ :=
    walk_encode hcontent hello.before_type hbefore (by omega)
  obtain ⟨htype, hextensionEnd, hextension⟩ := hello.extension_encode (drop_append hcontent)
  exact ⟨_, headers, by omega, hwalk, by omega, htype, by omega, hextension⟩

end ClientHello

/-! ## Where a name lies -/

/-- The name in the extension at `e` ends within the record, the handshake message, the extensions,
its extension and the server_name list. -/
structure Inside (data : Lib.Bytes) (e : ℕ) : Prop where
  record : nameEnd data e ≤ recordEnd data
  handshake : nameEnd data e ≤ handshakeEnd data
  extensions : nameEnd data e ≤ extensionsEnd data
  extension : nameEnd data e ≤ extensionEnd data e
  list : nameEnd data e ≤ listEnd data e

lemma ServerName.unique {name' : Lib.Bytes} (h : ServerName data stop o e name)
    (h' : ServerName data stop o e' name') : e = e' := by
  obtain ⟨walk, _, htype, _, _⟩ := h
  induction walk with
  | here => exact ((serverName_here_iff htype).mp h').1.symm
  | skip _ other _ _ ih => exact ih ((serverName_skip_iff other).mp h').2.2 ‹_› htype ‹_› ‹_›

lemma ServerName.nameEnd_le (h : ServerName data stop o e name) :
    nameEnd data e ≤ extensionEnd data e ∧ nameEnd data e ≤ stop := by
  have hentry := h.extension.entry
  have hfits := h.fits
  have hend : nameEnd data e = e + 4 + 5 + number data (e + 4 + 3) 2 := rfl
  omega

lemma inside_iff (h : Reads data e name) : Inside data e ↔
    nameEnd data e ≤ recordEnd data ∧ nameEnd data e ≤ handshakeEnd data ∧
      nameEnd data e ≤ listEnd data e :=
  ⟨fun inside => ⟨inside.record, inside.handshake, inside.list⟩,
    fun ⟨record, handshake, list⟩ => ⟨record, handshake, h.serverName.nameEnd_le.2,
      h.serverName.nameEnd_le.1, list⟩⟩

/-- The program is right on an input: no index is out of range, the name of a well-formed
ClientHello is returned, and a name that is returned lies within every length declared for it. -/
structure Extracts (data : Lib.Bytes) : Prop where
  noFault : extractSni data ≠ .error .fault
  complete : ∀ (hello : ClientHello) (rest : Lib.Bytes), hello.encode ++ rest = data →
    extractSni data = .ok hello.hostName
  inside : ∀ name, extractSni data = .ok name → ∃ e, Reads data e (utf8 name) ∧ Inside data e

/-- Names are extracted rightly exactly where the record, the handshake message and the server_name
list declare lengths that hold the name. -/
theorem extracts_iff (data : Lib.Bytes) : Extracts data ↔ ∀ e name, Reads data e (utf8 name) →
    nameEnd data e ≤ recordEnd data ∧ nameEnd data e ≤ handshakeEnd data ∧
      nameEnd data e ≤ listEnd data e := by
  constructor
  · intro h e name hreads
    obtain ⟨e', hreads', hinside⟩ := h.inside name ((computes_extractSni.2 name).mpr ⟨e, hreads⟩)
    obtain rfl := hreads.serverName.unique hreads'.serverName
    exact (inside_iff hreads).mp hinside
  · intro h
    refine ⟨computes_extractSni.1, fun hello rest hdata => ?_, fun name hname => ?_⟩
    · exact (computes_extractSni.2 _).mpr (hello.reads_encode hdata)
    · obtain ⟨e, hreads⟩ := (computes_extractSni.2 name).mp hname
      exact ⟨e, hreads, (inside_iff hreads).mpr (h e name hreads)⟩

/-- A capture whose record and handshake message declare no byte at all, with a server_name
extension behind them. -/
def emptyRecord : Lib.Bytes :=
  [0x16, 3, 1, 0, 0, 1, 0, 0, 0] ++ List.replicate 34 0 ++
    [0, 0, 0, 0, 0, 10, 0, 0, 0, 6, 0, 4, 0, 0, 1, 97]

theorem not_extracts_emptyRecord : ¬ Extracts emptyRecord := by
  intro h
  have hreads : Reads emptyRecord 49 (utf8 "a") :=
    ⟨⟨by decide, by decide, .inr (by decide), by decide, by decide, by decide⟩, by decide,
      .here 49, by decide, by decide, by decide, by decide, by decide, by decide, by decide,
      by decide⟩
  obtain ⟨e, hreads', hinside⟩ := h.inside "a" ((computes_extractSni.2 "a").mpr ⟨49, hreads⟩)
  obtain rfl := hreads.serverName.unique hreads'.serverName
  exact absurd hinside.record (by decide)

end Paryty.Agent.Sni
