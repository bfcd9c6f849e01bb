import ImageBot.Proofs.Settings.Loading
import ImageBot.Proofs.Yaml.Records
/-!
# What a document tells of the settings

The settings are records in a record, each with its own defaults. A mapping with any of the known
names, in any order and among any others, tells the settings that stand under these names, and all
else is as it is by default.
-/
namespace ImageBot.Settings

open Yaml

variable {anchors : Anchors} {node : Node}

/-! ### The group `server` -/

section
variable (anchors) (l : List (String × Node))

/-- What entries tell of the group `server`. -/
@[mk_iff] structure ServerTold (s : ServerSettings) : Prop where
  port : Given ((Decoder.natural "u16" (2 ^ 16)).Reads anchors) l "port" default.server.port s.port
  bindAddress : Given (Decoder.string.Reads anchors) l "bind_address" default.server.bindAddress
    s.bindAddress
  commandPrefix : Given (Decoder.string.Reads anchors) l "command_prefix"
    default.server.commandPrefix s.commandPrefix

/-- The kinds of the values in the group `server`. -/
def serverKinds : List (String × (Node → Prop)) :=
  [("port", (Decoder.natural "u16" (2 ^ 16)).Takes anchors),
    ("bind_address", Decoder.string.Takes anchors),
    ("command_prefix", Decoder.string.Takes anchors)]

end

/-- The parts of the group `server`. -/
def serverParts : List (Piece ServerSettings) :=
  [⟨"port", .natural "u16" (2 ^ 16), fun a s => { s with port := a }, ServerSettings.port⟩,
    ⟨"bind_address", .string, fun a s => { s with bindAddress := a }, ServerSettings.bindAddress⟩,
    ⟨"command_prefix", .string, fun a s => { s with commandPrefix := a },
      ServerSettings.commandPrefix⟩]

theorem serverRecord_madeOf : serverRecord.MadeOf serverParts where
  fields := rfl
  nodup := by decide
  get_put := by simp [serverParts]
  get_put_of_ne := by simp [serverParts]
  ext := by
    rintro ⟨⟩ ⟨⟩ h
    simpa [serverParts] using h

theorem serverRecord_decode_iff {s : ServerSettings} : serverRecord.decode anchors node = .ok s ↔
    node.Tells anchors ["port", "bind_address", "command_prefix"] (ServerTold anchors · s) := by
  rw [serverRecord_madeOf.decode_iff]
  refine Node.Tells.congr fun l => ?_
  simp only [serverTold_iff, serverParts, List.forall_mem_cons, List.not_mem_nil, false_implies,
    implies_true, and_true]
  rfl

theorem serverRecord_takes :
    serverRecord.decode.Takes anchors = Node.HasKinds anchors (serverKinds anchors) :=
  funext fun _ => propext serverRecord_madeOf.takes_iff

/-! ### The proxies -/

section
variable (anchors) (l : List (String × Node))

/-- What entries tell of the proxies. -/
@[mk_iff] structure ProxiesTold (s : ProxySettings) : Prop where
  http : Given ((Decoder.optional .string).Reads anchors) l "http" default.outgoing.proxies.http
    s.http
  https : Given ((Decoder.optional .string).Reads anchors) l "https" default.outgoing.proxies.https
    s.https
  all : Given ((Decoder.optional .string).Reads anchors) l "all" default.outgoing.proxies.all s.all

/-- The kinds of the proxies. -/
def proxyKinds : List (String × (Node → Prop)) :=
  [("http", (Decoder.optional .string).Takes anchors),
    ("https", (Decoder.optional .string).Takes anchors),
    ("all", (Decoder.optional .string).Takes anchors)]

end

/-- The parts of the proxies. -/
def proxyParts : List (Piece ProxySettings) :=
  [⟨"http", .optional .string, fun a s => { s with http := a }, ProxySettings.http⟩,
    ⟨"https", .optional .string, fun a s => { s with https := a }, ProxySettings.https⟩,
    ⟨"all", .optional .string, fun a s => { s with all := a }, ProxySettings.all⟩]

theorem proxyRecord_madeOf : proxyRecord.MadeOf proxyParts where
  fields := rfl
  nodup := by decide
  get_put := by simp [proxyParts]
  get_put_of_ne := by simp [proxyParts]
  ext := by
    rintro ⟨⟩ ⟨⟩ h
    simpa [proxyParts] using h

theorem proxyRecord_decode_iff {p : ProxySettings} : proxyRecord.decode anchors node = .ok p ↔
    node.Tells anchors ["http", "https", "all"] (ProxiesTold anchors · p) := by
  rw [proxyRecord_madeOf.decode_iff]
  refine Node.Tells.congr fun l => ?_
  simp only [proxiesTold_iff, proxyParts, List.forall_mem_cons, List.not_mem_nil, false_implies,
    implies_true, and_true]
  rfl

theorem proxyRecord_takes :
    proxyRecord.decode.Takes anchors = Node.HasKinds anchors (proxyKinds anchors) :=
  funext fun _ => propext proxyRecord_madeOf.takes_iff

/-! ### The group `outgoing` -/

section
variable (anchors) (l : List (String × Node))

/-- What entries tell of the group `outgoing`. -/
@[mk_iff] structure OutgoingTold (s : OutgoingSettings) : Prop where
  searchTimeout : Given (Decoder.float.Reads anchors) l "search_timeout"
    default.outgoing.searchTimeout s.searchTimeout
  uploadTimeout : Given (Decoder.float.Reads anchors) l "upload_timeout"
    default.outgoing.uploadTimeout s.uploadTimeout
  poolMaxsize : Given ((Decoder.natural "usize" (2 ^ 64)).Reads anchors) l "pool_maxsize"
    default.outgoing.poolMaxsize s.poolMaxsize
  verifySsl : Given (Decoder.bool.Reads anchors) l "verify_ssl" default.outgoing.verifySsl
    s.verifySsl
  proxies : Given (fun v p => v.Tells anchors ["http", "https", "all"] (ProxiesTold anchors · p)) l
    "proxies" default.outgoing.proxies s.proxies

/-- The kinds of the values in the group `outgoing`. -/
def outgoingKinds : List (String × (Node → Prop)) :=
  [("search_timeout", Decoder.float.Takes anchors),
    ("upload_timeout", Decoder.float.Takes anchors),
    ("pool_maxsize", (Decoder.natural "usize" (2 ^ 64)).Takes anchors),
    ("verify_ssl", Decoder.bool.Takes anchors),
    ("proxies", Node.HasKinds anchors (proxyKinds anchors))]

end

/-- The parts of the group `outgoing`. -/
def outgoingParts : List (Piece OutgoingSettings) :=
  [⟨"search_timeout", .float, fun a s => { s with searchTimeout := a },
      OutgoingSettings.searchTimeout⟩,
    ⟨"upload_timeout", .float, fun a s => { s with uploadTimeout := a },
      OutgoingSettings.uploadTimeout⟩,
    ⟨"pool_maxsize", .natural "usize" (2 ^ 64), fun a s => { s with poolMaxsize := a },
      OutgoingSettings.poolMaxsize⟩,
    ⟨"verify_ssl", .bool, fun a s => { s with verifySsl := a }, OutgoingSettings.verifySsl⟩,
    ⟨"proxies", proxyRecord.decode, fun a s => { s with proxies := a }, OutgoingSettings.proxies⟩]

theorem outgoingRecord_madeOf : outgoingRecord.MadeOf outgoingParts where
  fields := rfl
  nodup := by decide
  get_put := by simp [outgoingParts]
  get_put_of_ne := by simp [outgoingParts]
  ext := by
    rintro ⟨⟩ ⟨⟩ h
    simpa [outgoingParts] using h

theorem outgoingRecord_decode_iff {s : OutgoingSettings} :
    outgoingRecord.decode anchors node = .ok s ↔ node.Tells anchors ["search_timeout",
      "upload_timeout", "pool_maxsize", "verify_ssl", "proxies"] (OutgoingTold anchors · s) := by
  rw [outgoingRecord_madeOf.decode_iff]
  refine Node.Tells.congr fun l => ?_
  simp only [outgoingTold_iff, outgoingParts, List.forall_mem_cons, List.not_mem_nil,
    false_implies, implies_true, and_true, ← proxyRecord_decode_iff]
  rfl

theorem outgoingRecord_takes :
    outgoingRecord.decode.Takes anchors = Node.HasKinds anchors (outgoingKinds anchors) := by
  refine funext fun _ => propext (outgoingRecord_madeOf.takes_iff.trans ?_)
  rw [outgoingKinds, ← proxyRecord_takes]
  rfl

/-! ### The group `google` -/

section
variable (anchors) (l : List (String × Node))

/-- What entries tell of the group `google`. -/
@[mk_iff] structure GoogleTold (s : GoogleSettings) : Prop where
  apiKey : Given (Decoder.string.Reads anchors) l "api_key" default.google.apiKey s.apiKey
  cx : Given (Decoder.string.Reads anchors) l "cx" default.google.cx s.cx
  baseUrl : Given (Decoder.string.Reads anchors) l "base_url" default.google.baseUrl s.baseUrl
  imgSize : Given (Decoder.string.Reads anchors) l "img_size" default.google.imgSize s.imgSize

/-- The kinds of the values in the group `google`. -/
def googleKinds : List (String × (Node → Prop)) :=
  [("api_key", Decoder.string.Takes anchors), ("cx", Decoder.string.Takes anchors),
    ("base_url", Decoder.string.Takes anchors), ("img_size", Decoder.string.Takes anchors)]

end

/-- The parts of the group `google`. -/
def googleParts : List (Piece GoogleSettings) :=
  [⟨"api_key", .string, fun a s => { s with apiKey := a }, GoogleSettings.apiKey⟩,
    ⟨"cx", .string, fun a s => { s with cx := a }, GoogleSettings.cx⟩,
    ⟨"base_url", .string, fun a s => { s with baseUrl := a }, GoogleSettings.baseUrl⟩,
    ⟨"img_size", .string, fun a s => { s with imgSize := a }, GoogleSettings.imgSize⟩]

theorem googleRecord_madeOf : googleRecord.MadeOf googleParts where
  fields := rfl
  nodup := by decide
  get_put := by simp [googleParts]
  get_put_of_ne := by simp [googleParts]
  ext := by
    rintro ⟨⟩ ⟨⟩ h
    simpa [googleParts] using h

theorem googleRecord_decode_iff {s : GoogleSettings} : googleRecord.decode anchors node = .ok s ↔
    node.Tells anchors ["api_key", "cx", "base_url", "img_size"] (GoogleTold anchors · s) := by
  rw [googleRecord_madeOf.decode_iff]
  refine Node.Tells.congr fun l => ?_
  simp only [googleTold_iff, googleParts, List.forall_mem_cons, List.not_mem_nil, false_implies,
    implies_true, and_true]
  rfl

theorem googleRecord_takes :
    googleRecord.decode.Takes anchors = Node.HasKinds anchors (googleKinds anchors) :=
  funext fun _ => propext googleRecord_madeOf.takes_iff

/-! ### The group `matrix` -/

section
variable (anchors) (l : List (String × Node))

/-- What entries tell of the group `matrix`. -/
@[mk_iff] structure MatrixTold (s : MatrixSettings) : Prop where
  homeserverUrl : Given (Decoder.string.Reads anchors) l "homeserver_url"
    default.matrix.homeserverUrl s.homeserverUrl
  accessToken : Given (Decoder.string.Reads anchors) l "access_token" default.matrix.accessToken
    s.accessToken
  deliverMessages : Given (Decoder.bool.Reads anchors) l "deliver_messages"
    default.matrix.deliverMessages s.deliverMessages

/-- The kinds of the values in the group `matrix`. -/
def matrixKinds : List (String × (Node → Prop)) :=
  [("homeserver_url", Decoder.string.Takes anchors),
    ("access_token", Decoder.string.Takes anchors),
    ("deliver_messages", Decoder.bool.Takes anchors)]

end

/-- The parts of the group `matrix`. -/
def matrixParts : List (Piece MatrixSettings) :=
  [⟨"homeserver_url", .string, fun a s => { s with homeserverUrl := a },
      MatrixSettings.homeserverUrl⟩,
    ⟨"access_token", .string, fun a s => { s with accessToken := a }, MatrixSettings.accessToken⟩,
    ⟨"deliver_messages", .bool, fun a s => { s with deliverMessages := a },
      MatrixSettings.deliverMessages⟩]

theorem matrixRecord_madeOf : matrixRecord.MadeOf matrixParts where
  fields := rfl
  nodup := by decide
  get_put := by simp [matrixParts]
  get_put_of_ne := by simp [matrixParts]
  ext := by
    rintro ⟨⟩ ⟨⟩ h
    simpa [matrixParts] using h

theorem matrixRecord_decode_iff {s : MatrixSettings} : matrixRecord.decode anchors node = .ok s ↔
    node.Tells anchors ["homeserver_url", "access_token", "deliver_messages"]
      (MatrixTold anchors · s) := by
  rw [matrixRecord_madeOf.decode_iff]
  refine Node.Tells.congr fun l => ?_
  simp only [matrixTold_iff, matrixParts, List.forall_mem_cons, List.not_mem_nil, false_implies,
    implies_true, and_true]
  rfl

theorem matrixRecord_takes :
    matrixRecord.decode.Takes anchors = Node.HasKinds anchors (matrixKinds anchors) :=
  funext fun _ => propext matrixRecord_madeOf.takes_iff

/-! ### All settings -/

section
variable (anchors) (l : List (String × Node))

/-- What entries tell of all settings, group by group. -/
@[mk_iff] structure AllTold (s : Settings) : Prop where
  server : Given (fun v t => v.Tells anchors ["port", "bind_address", "command_prefix"]
    (ServerTold anchors · t)) l "server" default.server s.server
  outgoing : Given (fun v t => v.Tells anchors ["search_timeout", "upload_timeout", "pool_maxsize",
    "verify_ssl", "proxies"] (OutgoingTold anchors · t)) l "outgoing" default.outgoing s.outgoing
  google : Given (fun v t => v.Tells anchors ["api_key", "cx", "base_url", "img_size"]
    (GoogleTold anchors · t)) l "google" default.google s.google
  matrix : Given (fun v t => v.Tells anchors ["homeserver_url", "access_token", "deliver_messages"]
    (MatrixTold anchors · t)) l "matrix" default.matrix s.matrix

/-- The kinds of the groups. -/
def kinds : List (String × (Node → Prop)) :=
  [("server", Node.HasKinds anchors (serverKinds anchors)),
    ("outgoing", Node.HasKinds anchors (outgoingKinds anchors)),
    ("google", Node.HasKinds anchors (googleKinds anchors)),
    ("matrix", Node.HasKinds anchors (matrixKinds anchors))]

end

/-- The groups. -/
def groupParts : List (Piece Settings) :=
  [⟨"server", serverRecord.decode, fun a s => { s with server := a }, Settings.server⟩,
    ⟨"outgoing", outgoingRecord.decode, fun a s => { s with outgoing := a }, Settings.outgoing⟩,
    ⟨"google", googleRecord.decode, fun a s => { s with google := a }, Settings.google⟩,
    ⟨"matrix", matrixRecord.decode, fun a s => { s with matrix := a }, Settings.matrix⟩]

theorem record_madeOf : record.MadeOf groupParts where
  fields := rfl
  nodup := by decide
  get_put := by simp [groupParts]
  get_put_of_ne := by simp [groupParts]
  ext := by
    rintro ⟨⟩ ⟨⟩ h
    simpa [groupParts] using h

/-- What is decoded as settings is what the node tells of all of them. -/
theorem record_decode_iff {s : Settings} : record.decode anchors node = .ok s ↔
    node.Tells anchors ["server", "outgoing", "google", "matrix"] (AllTold anchors · s) := by
  rw [record_madeOf.decode_iff]
  refine Node.Tells.congr fun l => ?_
  simp only [allTold_iff, groupParts, List.forall_mem_cons, List.not_mem_nil, false_implies,
    implies_true, and_true, ← serverRecord_decode_iff, ← outgoingRecord_decode_iff,
    ← googleRecord_decode_iff, ← matrixRecord_decode_iff]
  rfl

/-- Settings can be decoded from what has values of the right kind for them. -/
theorem record_takes : record.decode.Takes anchors = Node.HasKinds anchors (kinds anchors) := by
  refine funext fun _ => propext (record_madeOf.takes_iff.trans ?_)
  rw [kinds, ← serverRecord_takes, ← outgoingRecord_takes, ← googleRecord_takes,
    ← matrixRecord_takes]
  rfl

/-! ### Documents and variables -/

/-- A text that is a document with a value and with nothing wrong. -/
def IsDocument (text : List Char) (node : Node) : Prop :=
  Document.ofText text = ⟨some node, none, false⟩

theorem ofYaml_of_isDocument {text : List Char} (h : IsDocument text node) (s : Settings) :
    ofYaml text = .ok s ↔ record.decode (node.anchors []) node = .ok s := by
  rw [ofYaml, Record.ofText, h]
  cases hs : record.decode (node.anchors []) node <;> simp [hs]

/-- Variables that override settings a second time change nothing. -/
theorem override_override (var : String → Option String) (s : Settings) :
    (s.override var).override var = s.override var := by
  have hgetD {α : Type} (told : Option α) (a : α) : told.getD (told.getD a) = told.getD a := by
    cases told <;> rfl
  simp only [override, overrideServer, overrideGoogle, overrideMatrix, hgetD]

/-- **What is told and what is not.** A mapping with values of the right kind under any of the
known names, in any order and among any other names, is decoded to the settings that it tells, and
where it tells nothing to the default settings. Variables replace six settings and no other, and
replace them for good. -/
theorem ofYaml_told_override :
    (∀ text node l, IsDocument text node →
      node.IsMapping (node.anchors []) ["server", "outgoing", "google", "matrix"] l →
      Suits (kinds (node.anchors [])) l →
      ∃ s, ofYaml text = .ok s ∧ AllTold (node.anchors []) l s) ∧
    ∀ var s, Overridden var s (s.override var) ∧
      (s.override var).override var = s.override var := by
  refine ⟨?_, fun var s => ⟨overridden_override var s, override_override var s⟩⟩
  intro text node l hdoc hmap hsuits
  have htakes : record.decode.Takes (node.anchors []) node := by
    rw [record_takes]
    exact hmap.tells_iff.mpr hsuits
  obtain ⟨s, hs⟩ := htakes
  have htold : AllTold (node.anchors []) l s := hmap.tells_iff.mp (record_decode_iff.mp hs)
  exact ⟨s, (ofYaml_of_isDocument hdoc s).mpr hs, htold⟩

/-- A text in a document without tags and anchors. -/
def plainText (mark : Mark) (text : String) : Node := .scalar mark none ⟨none, .plain, text⟩

/-- The group `{x: [], access_token: t}`. -/
def tokenGroup : Node :=
  .mapping ⟨13, 1, 8⟩ none
    (.entry (plainText ⟨14, 1, 9⟩ "x") (.sequence ⟨17, 1, 12⟩ none .closed)
      (.entry (plainText ⟨21, 1, 16⟩ "access_token") (plainText ⟨35, 1, 30⟩ "t") .closed))

/-- The group as `matrix` below a name that is not known. -/
def tokenDocument : Node :=
  .mapping ⟨0, 0, 0⟩ none
    (.entry (plainText ⟨0, 0, 0⟩ "y") (plainText ⟨3, 0, 3⟩ "1")
      (.entry (plainText ⟨5, 1, 0⟩ "matrix") tokenGroup .closed))

theorem ofYaml_told_override_token :
    ∃ s, ofYaml "y: 1\nmatrix: {x: [], access_token: t}\n".toList = .ok s ∧
      s.matrix.accessToken = "t" ∧ s.matrix.homeserverUrl = default.matrix.homeserverUrl ∧
      s.server = default.server := by
  have hdoc : IsDocument "y: 1\nmatrix: {x: [], access_token: t}\n".toList tokenDocument := by
    show Document.ofText _ = _
    decide +kernel
  have hgroup : tokenGroup.IsMapping [] ["homeserver_url", "access_token", "deliver_messages"]
      [("x", .sequence ⟨17, 1, 12⟩ none .closed), ("access_token", plainText ⟨35, 1, 30⟩ "t")] := by
    refine ⟨⟨_, _, _, rfl, rfl⟩, by decide, ?_⟩
    intro name v hv _
    simp only [List.mem_cons, Prod.mk.injEq, List.not_mem_nil, or_false] at hv
    rcases hv with ⟨-, rfl⟩ | ⟨-, rfl⟩ <;> rfl
  have hmap : tokenDocument.IsMapping [] ["server", "outgoing", "google", "matrix"]
      [("y", plainText ⟨3, 0, 3⟩ "1"), ("matrix", tokenGroup)] := by
    refine ⟨⟨_, _, _, rfl, rfl⟩, by decide, ?_⟩
    intro name v hv _
    simp only [List.mem_cons, Prod.mk.injEq, List.not_mem_nil, or_false] at hv
    rcases hv with ⟨-, rfl⟩ | ⟨-, rfl⟩ <;> rfl
  have hkinds : tokenGroup.HasKinds [] (matrixKinds []) := by
    refine .inl ⟨_, hgroup, ?_⟩
    simp only [Suits, matrixKinds, List.forall_mem_cons]
    refine ⟨by simp, ?_, by simp, by simp⟩
    intro v hv
    obtain rfl : v = plainText ⟨35, 1, 30⟩ "t" := by simpa using hv
    exact ⟨"t", rfl⟩
  have hsuits : Suits (kinds []) [("y", plainText ⟨3, 0, 3⟩ "1"), ("matrix", tokenGroup)] := by
    simpa [Suits, kinds] using hkinds
  obtain ⟨s, hs, htold⟩ := ofYaml_told_override.1 _ _ _ hdoc hmap hsuits
  have hmatrix := hgroup.tells_iff.mp (htold.matrix.1 tokenGroup (by simp))
  have htoken : Decoder.string.Reads [] (plainText ⟨35, 1, 30⟩ "t") s.matrix.accessToken :=
    hmatrix.accessToken.1 _ (by simp)
  exact ⟨s, hs, (Except.ok.inj htoken).symm, hmatrix.homeserverUrl.2 (by simp),
    htold.server.2 (by simp)⟩

/-- The entry `google: {api_key: k}` and one whose key is the sequence `[a]`. -/
def sequenceKeyDocument : Node :=
  .mapping ⟨0, 0, 0⟩ none
    (.entry (plainText ⟨0, 0, 0⟩ "google")
      (.mapping ⟨8, 0, 8⟩ none
        (.entry (plainText ⟨9, 0, 9⟩ "api_key") (plainText ⟨18, 0, 18⟩ "k") .closed))
      (.entry (.sequence ⟨21, 1, 0⟩ none (.item (plainText ⟨22, 1, 1⟩ "a") .closed))
        (plainText ⟨26, 1, 5⟩ "1") .closed))

/-- A key that is no scalar is not passed over: it has no name that could be unknown. -/
theorem ofYaml_sequence_key :
    IsDocument "google: {api_key: k}\n[a]: 1\n".toList sequenceKeyDocument ∧
    ofYaml "google: {api_key: k}\n".toList =
      .ok { default with google := { default.google with apiKey := "k" } } ∧
    ofYaml "google: {api_key: k}\n[a]: 1\n".toList =
      .error (.problem (.mismatch (.type "sequence" "field identifier") ⟨21, 1, 0⟩)) := by
  refine ⟨?_, ?_, ?_⟩
  · show Document.ofText _ = _
    decide +kernel
  · decide +kernel
  · decide +kernel

end ImageBot.Settings
