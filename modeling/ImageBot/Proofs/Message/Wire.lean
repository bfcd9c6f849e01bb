import ImageBot.Message
import ImageBot.Proofs.Json.Decoding
/-!
# Messages on the wire

A message is read back from its JSON text, whether its members stand in the order in which
they were given or are sorted. The type may stand anywhere among them.
-/
namespace ImageBot

open Json

namespace ImageInfo

variable {depth : Nat}

theorem toValue_sorted (info : ImageInfo) : info.toValue.sorted =
    .object [("h", .number (.int info.height.toNat)), ("mimetype", .string info.mimetype),
      ("w", .number (.int info.width.toNat))] := by
  simp +decide only [toValue, Value.sorted, Value.sortedMembers, Value.sortMembers,
    Value.insertMember, List.foldl, if_true, if_false]

theorem reads_toValue (info : ImageInfo) (hdepth : 1 < depth) :
    Decoder.Reads Message.infoRecord.decode depth info.toValue info := by
  have hheight := Decoder.reads_nat32 info.height.toNat_lt (depth - 1)
  have hwidth := Decoder.reads_nat32 info.width.toNat_lt (depth - 1)
  have htype := Decoder.reads_string (depth - 1) info.mimetype
  refine Record.Takes.reads ?_ hdepth
  have htakes : Message.infoRecord.Takes (depth - 1) [] Message.infoRecord.empty
      [("h", .number (.int info.height.toNat)), ("w", .number (.int info.width.toNat)),
        ("mimetype", .string info.mimetype)]
      ⟨info.height.toNat.toUInt32, info.width.toNat.toUInt32, info.mimetype⟩ :=
    .field rfl rfl hheight.required <| .field rfl rfl hwidth.required <|
      .field rfl rfl htype.required <| .nil rfl
  simpa using htakes

theorem reads_sorted (info : ImageInfo) (hdepth : 1 < depth) :
    Decoder.Reads Message.infoRecord.decode depth info.toValue.sorted info := by
  have hheight := Decoder.reads_nat32 info.height.toNat_lt (depth - 1)
  have hwidth := Decoder.reads_nat32 info.width.toNat_lt (depth - 1)
  have htype := Decoder.reads_string (depth - 1) info.mimetype
  rw [toValue_sorted]
  refine Record.Takes.reads ?_ hdepth
  have htakes : Message.infoRecord.Takes (depth - 1) [] Message.infoRecord.empty
      [("h", .number (.int info.height.toNat)), ("mimetype", .string info.mimetype),
        ("w", .number (.int info.width.toNat))]
      ⟨info.height.toNat.toUInt32, info.width.toNat.toUInt32, info.mimetype⟩ :=
    .field rfl rfl hheight.required <| .field rfl rfl htype.required <|
      .field rfl rfl hwidth.required <| .nil rfl
  simpa using htakes

end ImageInfo

namespace Message

/-- The name of a type of messages. -/
def Kind.name : Kind → String
  | notice => "m.notice"
  | image => "m.image"

theorem kind_of_shows {k : Kind} {node : Node} (h : node.Shows (.string k.name)) :
    kind node = .ok k := by
  obtain ⟨stop, rfl⟩ := Node.shows_iff.mp h
  cases k <;> rfl

variable {depth : Nat} {k : Kind} {members : Members} {before after : List (String × Value)}

/-- Behind the type all members are kept. -/
theorem splitMembers_behind (hnames : ∀ m ∈ after, m.1 ≠ "msgtype")
    (hheight : membersHeight after < depth) (hmembers : members.Shows after) :
    splitMembers depth (some k) members = .ok (k, after) := by
  induction after generalizing members with
  | nil =>
    obtain ⟨stop, rfl⟩ := Members.shows_nil_iff.mp hmembers
    rfl
  | cons m rest ih =>
    obtain ⟨mark, node, leave, members, rfl, hnode, hrest⟩ := Members.shows_cons_iff.mp hmembers
    rw [List.forall_mem_cons] at hnames
    rw [membersHeight] at hheight
    have hvalue := hnode.toValue depth (by omega)
    have hbehind := ih hnames.2 (by omega) hrest
    simp only [splitMembers, hnames.1, if_false, hvalue, hbehind, Except.map]

/-- The type is found wherever it stands, and all other members are kept. -/
theorem splitMembers_append (hnames : ∀ m ∈ before ++ after, m.1 ≠ "msgtype")
    (hheight : membersHeight (before ++ after) < depth)
    (hmembers : members.Shows (before ++ ("msgtype", .string k.name) :: after)) :
    splitMembers depth none members = .ok (k, before ++ after) := by
  induction before generalizing members with
  | nil =>
    obtain ⟨mark, node, leave, members, rfl, hnode, hafter⟩ := Members.shows_cons_iff.mp hmembers
    have hbehind := splitMembers_behind (k := k) hnames hheight hafter
    simp only [splitMembers, if_true, Option.isSome_none, Bool.false_eq_true, if_false,
      kind_of_shows hnode, hbehind, List.nil_append]
  | cons m rest ih =>
    obtain ⟨mark, node, leave, members, rfl, hnode, hrest⟩ := Members.shows_cons_iff.mp hmembers
    rw [List.cons_append, List.forall_mem_cons] at hnames
    rw [List.cons_append, membersHeight] at hheight
    have hvalue := hnode.toValue depth (by omega)
    have hothers := ih hnames.2 (by omega) hrest
    simp only [splitMembers, hnames.1, if_false, hvalue, hothers, Except.map, List.cons_append]

/-- A message is read from an object by its type and its other members. -/
theorem reads_object (k : Kind) (before after : List (String × Value)) {m : Message}
    (hnames : ∀ m ∈ before ++ after, m.1 ≠ "msgtype")
    (hheight : membersHeight (before ++ after) + 1 < depth)
    (hparts : ofParts k (.object (before ++ after)) = .ok m) :
    Decoder.Reads decoder depth (.object (before ++ ("msgtype", .string k.name) :: after)) m := by
  intro node hnode
  obtain ⟨start, members, rfl, hmembers⟩ := Node.shows_iff.mp hnode
  have hsplit := splitMembers_append hnames (by omega : _ < depth - 1) hmembers
  simp only [decoder, split, enter_of_lt (show 1 < depth by omega), hsplit, bind, Except.bind,
    pure, Except.pure, hparts]

/-- A notice is read from its text, an image from its parts. -/
theorem ofParts_notice (body : String) :
    ofParts .notice (.object [("body", .string body)]) = .ok (.notice body) := by
  have hbody := Decoder.reads_string 127 body
  have htakes : noticeRecord.Takes 127 [] noticeRecord.empty [("body", .string body)] body :=
    .field rfl rfl hbody.required <| .nil rfl
  rw [ofParts, Record.ofValue_of_reads (htakes.reads (by decide))]
  rfl

theorem ofParts_image {content : ImageMessage} {info : Value}
    (hinfo : Decoder.Reads infoRecord.decode 127 info content.info) :
    ofParts .image (.object [("body", .string content.body), ("url", .string content.uri.text),
      ("info", info)]) = .ok (.image content) := by
  have hbody := Decoder.reads_string 127 content.body
  have huri := Decoder.reads_string 127 content.uri.text
  have htakes : imageRecord.Takes 127 [] imageRecord.empty [("body", .string content.body),
      ("url", .string content.uri.text), ("info", info)] content :=
    .field rfl rfl hbody.required <| .field rfl rfl huri.required <|
      .field rfl rfl hinfo.required <| .nil rfl
  rw [ofParts, Record.ofValue_of_reads (htakes.reads (by decide))]
  rfl

theorem ofParts_image_sorted {content : ImageMessage} {info : Value}
    (hinfo : Decoder.Reads infoRecord.decode 127 info content.info) :
    ofParts .image (.object [("body", .string content.body), ("info", info),
      ("url", .string content.uri.text)]) = .ok (.image content) := by
  have hbody := Decoder.reads_string 127 content.body
  have huri := Decoder.reads_string 127 content.uri.text
  have htakes : imageRecord.Takes 127 [] imageRecord.empty [("body", .string content.body),
      ("info", info), ("url", .string content.uri.text)] content :=
    .field rfl rfl hbody.required <| .field rfl rfl hinfo.required <|
      .field rfl rfl huri.required <| .nil rfl
  rw [ofParts, Record.ofValue_of_reads (htakes.reads (by decide))]
  rfl

theorem toValue_sorted (m : Message) : m.toValue.sorted = match m with
    | notice body => .object [("body", .string body), ("msgtype", .string "m.notice")]
    | image content => .object [("body", .string content.body),
        ("info", content.info.toValue.sorted), ("msgtype", .string "m.image"),
        ("url", .string content.uri.text)] := by
  cases m <;>
    simp +decide only [toValue, Value.sorted, Value.sortedMembers, Value.sortMembers,
    Value.insertMember, List.foldl, if_true, if_false]

/-- A message is read from its value, with the members as they were given. -/
theorem reads_toValue (m : Message) (hdepth : 3 ≤ depth) :
    Decoder.Reads decoder depth m.toValue m := by
  cases m with
  | notice body =>
    have hheight : membersHeight [("body", .string body)] = 0 := rfl
    refine reads_object .notice [] [("body", .string body)] (by simp) ?_ (ofParts_notice body)
    rw [List.nil_append, hheight]
    omega
  | image content =>
    have hinfo : Decoder.Reads infoRecord.decode 127 content.info.toValue content.info :=
      content.info.reads_toValue (by decide)
    have hheight : membersHeight [("body", .string content.body),
        ("url", .string content.uri.text), ("info", content.info.toValue)] = 1 := rfl
    refine reads_object .image [] _ (by simp) ?_ (ofParts_image hinfo)
    rw [List.nil_append, hheight]
    omega

/-- A message is read from its value, with the members sorted. -/
theorem reads_sorted (m : Message) (hdepth : 3 ≤ depth) :
    Decoder.Reads decoder depth m.toValue.sorted m := by
  rw [toValue_sorted]
  cases m with
  | notice body =>
    have hheight : membersHeight [("body", .string body)] = 0 := rfl
    refine reads_object .notice [("body", .string body)] [] (by simp) ?_ (ofParts_notice body)
    rw [List.append_nil, hheight]
    omega
  | image content =>
    have hinfo : Decoder.Reads infoRecord.decode 127 content.info.toValue.sorted content.info :=
      content.info.reads_sorted (by decide)
    have hheight : membersHeight [("body", .string content.body),
        ("info", content.info.toValue.sorted), ("url", .string content.uri.text)] = 1 := by
      rw [ImageInfo.toValue_sorted]
      rfl
    refine reads_object .image
      [("body", .string content.body), ("info", content.info.toValue.sorted)]
      [("url", .string content.uri.text)] (by simp) ?_ (ofParts_image_sorted hinfo)
    rw [List.cons_append, List.singleton_append, hheight]
    omega

theorem exact_toValue (m : Message) : m.toValue.Exact := by
  cases m with
  | notice body => exact ⟨trivial, trivial, trivial⟩
  | image content =>
    have hheight := content.info.height.toNat_lt
    have hwidth := content.info.width.toNat_lt
    have hfits {n : Nat} (hn : n < 2 ^ 32) : Number.Fits n := ⟨by omega, by omega⟩
    exact ⟨trivial, trivial, trivial, ⟨hfits hheight, hfits hwidth, trivial, trivial⟩, trivial⟩

/-- **A message is read back from the text with sorted members.** -/
theorem decode_sorted (m : Message) : decode (Text.Utf8.bytes m.toValue.sorted.write) = .ok m :=
  (m.reads_sorted (by decide)).decode m.exact_toValue.sorted

end Message

end ImageBot
