import ImageBot.Json.Parser
import ImageBot.Proofs.Json.Numbers
import ImageBot.Proofs.Json.Strings
/-!
# Reading documents that were written

A value whose numbers are integers of 64 bits is read from its text as a tree that shows
this value, and nothing else. The proof follows the parser: a value ends where its text does,
whatever comes behind it, as long as this makes no other number of it.
-/
namespace ImageBot.Json

open Text

mutual
/-- Whether all numbers in a value are integers that are kept exact. -/
def Value.Exact : Value → Prop
  | .number (.int n) => Number.Fits n
  | .number (.float _) => False
  | .array items => ItemsExact items
  | .object members => MembersExact members
  | _ => True
/-- The same for items. -/
def ItemsExact : List Value → Prop
  | [] => True
  | v :: rest => v.Exact ∧ ItemsExact rest
/-- The same for members. -/
def MembersExact : List (String × Value) → Prop
  | [] => True
  | (_, v) :: rest => v.Exact ∧ MembersExact rest
end

mutual
/-- Whether a tree shows a value: all of it can be read, and is what the value has there. -/
def Node.Shows : Node → Value → Prop
  | .null _, .null => True
  | .bool b _, .bool b' => b = b'
  | .number n _, .number m => n = .ok m
  | .string s _, .string t => s = .ok t
  | .array _ items, .array values => items.Shows values
  | .object _ members, .object values => members.Shows values
  | _, _ => False
/-- The same for items. -/
def Items.Shows : Items → List Value → Prop
  | .closed _, [] => True
  | .item v _ rest, a :: values => v.Shows a ∧ rest.Shows values
  | _, _ => False
/-- The same for members. -/
def Members.Shows : Members → List (String × Value) → Prop
  | .closed _, [] => True
  | .member key _ v _ rest, (name, a) :: values => key = .ok name ∧ v.Shows a ∧ rest.Shows values
  | _, _ => False
end

/-! ### The bytes of a value -/

theorem bytes_append (s t : String) : Utf8.bytes (s ++ t) = Utf8.bytes s ++ Utf8.bytes t := by
  rw [Utf8.bytes, String.toList_append, Utf8.encode_append]
  rfl

namespace Value

theorem bytes_array (items : List Value) : Utf8.bytes (array items).write =
    0x5B :: (Utf8.bytes (writeItems true items) ++ [0x5D]) := by
  rw [write, bytes_append, bytes_append]
  rfl

theorem bytes_object (members : List (String × Value)) : Utf8.bytes (object members).write =
    0x7B :: (Utf8.bytes (writeMembers true members) ++ [0x7D]) := by
  rw [write, bytes_append, bytes_append]
  rfl

theorem bytes_items (v : Value) (rest : List Value) :
    Utf8.bytes (writeItems true (v :: rest)) =
      Utf8.bytes v.write ++ Utf8.bytes (writeItems false rest) := by
  rw [writeItems, bytes_append, bytes_append]
  rfl

theorem bytes_later_items (v : Value) (rest : List Value) :
    Utf8.bytes (writeItems false (v :: rest)) =
      0x2C :: (Utf8.bytes v.write ++ Utf8.bytes (writeItems false rest)) := by
  rw [writeItems, bytes_append, bytes_append]
  rfl

theorem bytes_members (name : String) (v : Value) (rest : List (String × Value)) :
    Utf8.bytes (writeMembers true ((name, v) :: rest)) =
      0x22 :: (Str.inner name ++ 0x22 :: 0x3A ::
        (Utf8.bytes v.write ++ Utf8.bytes (writeMembers false rest))) := by
  rw [writeMembers, bytes_append, bytes_append, bytes_append, bytes_append, Str.bytes_quote]
  simp [show Utf8.bytes ":" = [0x3A] from rfl, show Utf8.bytes "" = [] from rfl]

theorem bytes_later_members (name : String) (v : Value) (rest : List (String × Value)) :
    Utf8.bytes (writeMembers false ((name, v) :: rest)) =
      0x2C :: 0x22 :: (Str.inner name ++ 0x22 :: 0x3A ::
        (Utf8.bytes v.write ++ Utf8.bytes (writeMembers false rest))) := by
  rw [writeMembers, bytes_append, bytes_append, bytes_append, bytes_append, Str.bytes_quote]
  simp [show Utf8.bytes ":" = [0x3A] from rfl, show Utf8.bytes "," = [0x2C] from rfl]

/-- What a value starts with: no blank, and nothing that would close an array. -/
theorem head_write {v : Value} (hv : v.Exact) :
    ∃ b rest, Utf8.bytes v.write = b :: rest ∧ isBlank b = false ∧ b ≠ 0x5D := by
  cases v with
  | null => exact ⟨_, _, rfl, by decide, by decide⟩
  | bool b => cases b <;> exact ⟨_, _, rfl, by decide, by decide⟩
  | number n =>
    cases n with
    | int n =>
      obtain ⟨b, rest, hbytes, hb⟩ := Number.head_toString n
      refine ⟨b, rest, hbytes, ?_⟩
      rcases hb with rfl | hb
      · exact ⟨by decide, by decide⟩
      · exact ⟨isBlank_of_isDigit hb, by rintro rfl; cases hb⟩
    | float x => exact hv.elim
  | string s => exact ⟨_, _, Str.bytes_quote s, by decide, by decide⟩
  | array items => exact ⟨_, _, bytes_array items, by decide, by decide⟩
  | object members => exact ⟨_, _, bytes_object members, by decide, by decide⟩

end Value

/-! ### The parser at a value -/

section

variable {offset fuel : Nat} {more : List UInt8}

theorem skipBlanks_of_not_blank {b : UInt8} {rest : List UInt8} (h : isBlank b = false) :
    Cursor.skipBlanks ⟨offset, b :: rest⟩ = ⟨offset, b :: rest⟩ := by
  simp [Cursor.skipBlanks, Cursor.skipBlanksFrom, h]

/-- A number ends where an element of a container does. -/
theorem endsNumber_of_not_digit {b : UInt8} (hb : b = 0x2C ∨ b = 0x5D ∨ b = 0x7D)
    (rest : List UInt8) : EndsNumber (b :: rest) := by
  intro b' hb'
  rw [List.head?_cons, Option.mem_some_iff] at hb'
  subst hb'
  rcases hb with rfl | rfl | rfl <;> decide

theorem endsNumber_items (values : List Value) (more : List UInt8) :
    EndsNumber (Utf8.bytes (Value.writeItems false values) ++ 0x5D :: more) := by
  cases values with
  | nil => exact endsNumber_of_not_digit (.inr (.inl rfl)) _
  | cons v rest =>
    rw [Value.bytes_later_items]
    exact endsNumber_of_not_digit (.inl rfl) _

theorem endsNumber_members (values : List (String × Value)) (more : List UInt8) :
    EndsNumber (Utf8.bytes (Value.writeMembers false values) ++ 0x7D :: more) := by
  cases values with
  | nil => exact endsNumber_of_not_digit (.inr (.inr rfl)) _
  | cons m rest =>
    rw [Value.bytes_later_members]
    exact endsNumber_of_not_digit (.inl rfl) _

theorem parseNode_null : parseNode (fuel + 1) ⟨offset, Utf8.bytes Value.null.write ++ more⟩ =
    (.null (offset + 4), .ok ⟨offset + 4, more⟩) := by
  rfl

theorem parseNode_bool (b : Bool) :
    parseNode (fuel + 1) ⟨offset, Utf8.bytes (Value.bool b).write ++ more⟩ =
      (.bool b (offset + (Utf8.bytes (Value.bool b).write).length),
        .ok ⟨offset + (Utf8.bytes (Value.bool b).write).length, more⟩) := by
  cases b <;> rfl

theorem parseNode_int {n : Int} (hn : Number.Fits n) (hmore : EndsNumber more) :
    parseNode (fuel + 1) ⟨offset, Utf8.bytes (toString n) ++ more⟩ =
      (.number (.ok (.int n)) (offset + (Utf8.bytes (toString n)).length),
        .ok ⟨offset + (Utf8.bytes (toString n)).length, more⟩) := by
  have hscan := Number.scan_toString hn hmore offset
  obtain ⟨b, rest, hbytes, hb⟩ := Number.head_toString n
  have hblank : isBlank b = false := by
    rcases hb with rfl | hb
    · rfl
    · exact isBlank_of_isDigit hb
  have hword (a : UInt8) (ha : isDigit a = false ∧ a ≠ 0x2D) : b ≠ a := by
    rintro rfl
    rcases hb with hb | hb
    · exact ha.2 hb
    · rw [ha.1] at hb
      cases hb
  rw [hbytes, List.cons_append] at hscan ⊢
  simp only [parseNode, skipBlanks_of_not_blank hblank, hword 0x6E (by decide),
    hword 0x74 (by decide), hword 0x66 (by decide), hb, if_false, if_true, hscan, leaf]

theorem parseNode_string (s : String) :
    parseNode (fuel + 1) ⟨offset, Utf8.bytes (quote s) ++ more⟩ =
      (.string (.ok s) (offset + (Utf8.bytes (quote s)).length),
        .ok ⟨offset + (Utf8.bytes (quote s)).length, more⟩) := by
  have hscan := Str.scan_inner s (offset + 1) more
  have hlength : offset + (Utf8.bytes (quote s)).length =
      offset + 1 + (Str.inner s).length + 1 := by
    rw [Str.bytes_quote]
    simp only [List.length_cons, List.length_append, List.length_nil]
    omega
  rw [hlength, Str.bytes_quote, List.cons_append, List.append_assoc, List.singleton_append]
  simp only [parseNode, skipBlanks_of_not_blank (show isBlank 0x22 = false from rfl),
    show isDigit 0x22 = false from rfl, hscan, leaf]
  rfl

/-- An array is read from its items. -/
theorem parseNode_bracket {rest : List UInt8} {items : Items} {last : Except Flaw Cursor}
    (h : parseItems fuel true ⟨offset + 1, rest⟩ = (items, last)) :
    parseNode (fuel + 1) ⟨offset, 0x5B :: rest⟩ = (.array offset items, last) := by
  simp only [parseNode, skipBlanks_of_not_blank (show isBlank 0x5B = false from rfl),
    show isDigit 0x5B = false from rfl, h]
  rfl

/-- An object is read from its members. -/
theorem parseNode_brace {rest : List UInt8} {members : Members} {last : Except Flaw Cursor}
    (h : parseMembers fuel true ⟨offset + 1, rest⟩ = (members, last)) :
    parseNode (fuel + 1) ⟨offset, 0x7B :: rest⟩ = (.object offset members, last) := by
  simp only [parseNode, skipBlanks_of_not_blank (show isBlank 0x7B = false from rfl),
    show isDigit 0x7B = false from rfl, h]
  rfl

theorem parseItems_bracket (first : Bool) :
    parseItems (fuel + 1) first ⟨offset, 0x5D :: more⟩ =
      (.closed (offset + 1), .ok ⟨offset + 1, more⟩) := by
  simp only [parseItems, skipBlanks_of_not_blank (show isBlank 0x5D = false from rfl)]

/-- An item starts where it is written, with a comma before it unless it is the first. -/
theorem parseItems_first {v : Value} (hv : v.Exact) (text : List UInt8) :
    parseItems (fuel + 1) true ⟨offset, Utf8.bytes v.write ++ text⟩ =
      parseItem fuel ⟨offset, Utf8.bytes v.write ++ text⟩ := by
  obtain ⟨b, rest, hbytes, hblank, hb⟩ := Value.head_write hv
  rw [hbytes, List.cons_append]
  simp only [parseItems, skipBlanks_of_not_blank hblank, if_true]

theorem parseItems_comma {v : Value} (hv : v.Exact) (text : List UInt8) :
    parseItems (fuel + 1) false ⟨offset, 0x2C :: (Utf8.bytes v.write ++ text)⟩ =
      parseItem fuel ⟨offset + 1, Utf8.bytes v.write ++ text⟩ := by
  obtain ⟨b, rest, hbytes, hblank, hb⟩ := Value.head_write hv
  rw [hbytes, List.cons_append]
  simp [parseItems, skipBlanks_of_not_blank (show isBlank 0x2C = false from rfl),
    skipBlanks_of_not_blank hblank, hb]

/-- An item is read from its value and what is behind it. -/
theorem parseItem_of_parseNode {c after : Cursor} {node : Node} {items : Items}
    {last : Except Flaw Cursor} (hnode : parseNode fuel c = (node, .ok after))
    (hitems : parseItems fuel false after = (items, last)) :
    parseItem (fuel + 1) c = (.item node (leaveArray after) items, last) := by
  simp only [parseItem, hnode, hitems]

theorem parseMembers_brace (first : Bool) :
    parseMembers (fuel + 1) first ⟨offset, 0x7D :: more⟩ =
      (.closed (offset + 1), .ok ⟨offset + 1, more⟩) := by
  simp only [parseMembers, skipBlanks_of_not_blank (show isBlank 0x7D = false from rfl)]

theorem parseMembers_first (rest : List UInt8) :
    parseMembers (fuel + 1) true ⟨offset, 0x22 :: rest⟩ =
      parseMember fuel ⟨offset + 1, rest⟩ := by
  simp [parseMembers, skipBlanks_of_not_blank (show isBlank 0x22 = false from rfl)]

theorem parseMembers_comma (rest : List UInt8) :
    parseMembers (fuel + 1) false ⟨offset, 0x2C :: 0x22 :: rest⟩ =
      parseMember fuel ⟨offset + 2, rest⟩ := by
  simp [parseMembers, skipBlanks_of_not_blank (show isBlank 0x2C = false from rfl),
    skipBlanks_of_not_blank (show isBlank 0x22 = false from rfl)]

/-- A member is read from its name, its value and what is behind it. -/
theorem parseMember_of_parseNode {name : String} {rest : List UInt8} {after : Cursor} {node : Node}
    {members : Members} {last : Except Flaw Cursor}
    (hnode : parseNode fuel ⟨offset + (Str.inner name).length + 2, rest⟩ = (node, .ok after))
    (hmembers : parseMembers fuel false after = (members, last)) :
    ∃ mark leave, parseMember (fuel + 1) ⟨offset, Str.inner name ++ 0x22 :: 0x3A :: rest⟩ =
      (.member (.ok name) mark node leave members, last) := by
  refine ⟨leaveObject ⟨offset + (Str.inner name).length + 1, 0x3A :: rest⟩, leaveObject after, ?_⟩
  simp only [parseMember, Str.scan_inner,
    skipBlanks_of_not_blank (show isBlank 0x3A = false from rfl), hnode, hmembers]

end

/-! ### Being read back -/

/-- Whether a value is read up to the end of its text as a tree that shows it. -/
def ReadsNode (fuel : Nat) (v : Value) (more : List UInt8) : Prop :=
  ∀ offset, ∃ node, node.Shows v ∧ parseNode fuel ⟨offset, Utf8.bytes v.write ++ more⟩ =
    (node, .ok ⟨offset + (Utf8.bytes v.write).length, more⟩)

/-- The same for items, up to the bracket behind them. -/
def ReadsItems (fuel : Nat) (first : Bool) (values : List Value) (more : List UInt8) : Prop :=
  ∀ offset, ∃ items, items.Shows values ∧
    parseItems fuel first ⟨offset, Utf8.bytes (Value.writeItems first values) ++ 0x5D :: more⟩ =
      (items, .ok ⟨offset + (Utf8.bytes (Value.writeItems first values)).length + 1, more⟩)

/-- The same for members, up to the brace behind them. -/
def ReadsMembers (fuel : Nat) (first : Bool) (values : List (String × Value))
    (more : List UInt8) : Prop :=
  ∀ offset, ∃ members, members.Shows values ∧
    parseMembers fuel first ⟨offset, Utf8.bytes (Value.writeMembers first values) ++ 0x7D :: more⟩ =
      (members, .ok ⟨offset + (Utf8.bytes (Value.writeMembers first values)).length + 1, more⟩)

section

variable {fuel : Nat} {v : Value} {more : List UInt8}

theorem ReadsItems.array {values : List Value} (h : ReadsItems fuel true values more) :
    ReadsNode (fuel + 1) (.array values) more := by
  intro offset
  obtain ⟨items, hshows, hparse⟩ := h (offset + 1)
  refine ⟨.array offset items, hshows, ?_⟩
  rw [Value.bytes_array, List.cons_append, List.append_assoc, List.singleton_append,
    parseNode_bracket hparse]
  simp only [List.length_cons, List.length_append, List.length_nil]
  congr 3
  omega

theorem ReadsMembers.object {values : List (String × Value)}
    (h : ReadsMembers fuel true values more) : ReadsNode (fuel + 1) (.object values) more := by
  intro offset
  obtain ⟨members, hshows, hparse⟩ := h (offset + 1)
  refine ⟨.object offset members, hshows, ?_⟩
  rw [Value.bytes_object, List.cons_append, List.append_assoc, List.singleton_append,
    parseNode_brace hparse]
  simp only [List.length_cons, List.length_append, List.length_nil]
  congr 3
  omega

theorem readsItems_nil (first : Bool) : ReadsItems (fuel + 1) first [] more := by
  intro offset
  exact ⟨.closed (offset + 1), trivial, parseItems_bracket first⟩

theorem readsMembers_nil (first : Bool) : ReadsMembers (fuel + 1) first [] more := by
  intro offset
  exact ⟨.closed (offset + 1), trivial, parseMembers_brace first⟩

/-- An item and those behind it, from where the item starts. -/
theorem ReadsNode.item {rest : List Value}
    (h : ReadsNode fuel v (Utf8.bytes (Value.writeItems false rest) ++ 0x5D :: more))
    (hrest : ReadsItems fuel false rest more) (start : Nat) :
    ∃ items, items.Shows (v :: rest) ∧ parseItem (fuel + 1)
      ⟨start, Utf8.bytes v.write ++ (Utf8.bytes (Value.writeItems false rest) ++ 0x5D :: more)⟩ =
        (items, .ok ⟨start + (Utf8.bytes v.write).length +
          (Utf8.bytes (Value.writeItems false rest)).length + 1, more⟩) := by
  obtain ⟨node, hnode, hvalue⟩ := h start
  obtain ⟨items, hitems, hafter⟩ := hrest (start + (Utf8.bytes v.write).length)
  exact ⟨.item node _ items, ⟨hnode, hitems⟩, parseItem_of_parseNode hvalue hafter⟩

theorem ReadsNode.items {rest : List Value} (hv : v.Exact)
    (h : ReadsNode fuel v (Utf8.bytes (Value.writeItems false rest) ++ 0x5D :: more))
    (hrest : ReadsItems fuel false rest more) (first : Bool) :
    ReadsItems (fuel + 2) first (v :: rest) more := by
  intro offset
  -- Only where the item starts depends on the comma before it.
  cases first with
  | true =>
    obtain ⟨items, hshows, hparse⟩ := h.item hrest offset
    refine ⟨items, hshows, ?_⟩
    rw [Value.bytes_items, List.length_append, List.append_assoc, parseItems_first hv, hparse]
    simp only [Nat.add_assoc]
  | false =>
    obtain ⟨items, hshows, hparse⟩ := h.item hrest (offset + 1)
    refine ⟨items, hshows, ?_⟩
    rw [Value.bytes_later_items, List.length_cons, List.length_append, List.cons_append,
      List.append_assoc, parseItems_comma hv, hparse]
    simp only [Nat.add_assoc, Nat.add_comm 1]

/-- A member and those behind it, from inside its name. -/
theorem ReadsNode.member {rest : List (String × Value)}
    (h : ReadsNode fuel v (Utf8.bytes (Value.writeMembers false rest) ++ 0x7D :: more))
    (hrest : ReadsMembers fuel false rest more) (name : String) (start : Nat) :
    ∃ members, members.Shows ((name, v) :: rest) ∧ parseMember (fuel + 1)
      ⟨start, Str.inner name ++ 0x22 :: 0x3A :: (Utf8.bytes v.write ++
        (Utf8.bytes (Value.writeMembers false rest) ++ 0x7D :: more))⟩ =
        (members, .ok ⟨start + (Str.inner name).length + 2 + (Utf8.bytes v.write).length +
          (Utf8.bytes (Value.writeMembers false rest)).length + 1, more⟩) := by
  obtain ⟨node, hnode, hvalue⟩ := h (start + (Str.inner name).length + 2)
  obtain ⟨members, hmembers, hafter⟩ :=
    hrest (start + (Str.inner name).length + 2 + (Utf8.bytes v.write).length)
  obtain ⟨mark, leave, hparse⟩ := parseMember_of_parseNode hvalue hafter
  exact ⟨.member (.ok name) mark node leave members, ⟨rfl, hnode, hmembers⟩, hparse⟩

theorem ReadsNode.members {rest : List (String × Value)}
    (h : ReadsNode fuel v (Utf8.bytes (Value.writeMembers false rest) ++ 0x7D :: more))
    (hrest : ReadsMembers fuel false rest more) (name : String) (first : Bool) :
    ReadsMembers (fuel + 2) first ((name, v) :: rest) more := by
  intro offset
  cases first with
  | true =>
    obtain ⟨members, hshows, hparse⟩ := h.member hrest name (offset + 1)
    refine ⟨members, hshows, ?_⟩
    rw [Value.bytes_members]
    simp only [List.length_cons, List.length_append, List.cons_append, List.append_assoc,
      parseMembers_first, hparse]
    congr 3
    omega
  | false =>
    obtain ⟨members, hshows, hparse⟩ := h.member hrest name (offset + 2)
    refine ⟨members, hshows, ?_⟩
    rw [Value.bytes_later_members]
    simp only [List.length_cons, List.length_append, List.cons_append, List.append_assoc,
      parseMembers_comma, hparse]
    congr 3
    omega

end

/-! ### Whole values -/

theorem Value.length_write_pos {v : Value} (hv : v.Exact) : 0 < (Utf8.bytes v.write).length := by
  obtain ⟨b, rest, hbytes, -⟩ := Value.head_write hv
  rw [hbytes]
  exact Nat.succ_pos _

mutual
/-- A value is read back, with three steps for each byte of it. -/
theorem parseNode_write {v : Value} (hv : v.Exact) {more : List UInt8} (hmore : EndsNumber more)
    (fuel : Nat) (hfuel : 3 * (Utf8.bytes v.write).length ≤ fuel) : ReadsNode fuel v more := by
  have hpos := Value.length_write_pos hv
  obtain ⟨fuel, rfl⟩ : ∃ k, fuel = k + 1 := ⟨fuel - 1, by omega⟩
  cases v with
  | null => exact fun _ => ⟨.null _, trivial, parseNode_null⟩
  | bool b => exact fun _ => ⟨.bool b _, rfl, parseNode_bool b⟩
  | number n =>
    cases n with
    | int n => exact fun _ => ⟨.number (.ok (.int n)) _, rfl, parseNode_int hv hmore⟩
    | float x => exact hv.elim
  | string s => exact fun _ => ⟨.string (.ok s) _, rfl, parseNode_string s⟩
  | array values =>
    rw [Value.bytes_array, List.length_cons, List.length_append, List.length_singleton] at hfuel
    apply ReadsItems.array
    exact parseItems_write true hv more fuel (by omega)
  | object values =>
    rw [Value.bytes_object, List.length_cons, List.length_append, List.length_singleton] at hfuel
    apply ReadsMembers.object
    exact parseMembers_write true hv more fuel (by omega)
/-- Items are read back, whether a comma stands before them or not. -/
theorem parseItems_write (first : Bool) {values : List Value} (hv : ItemsExact values)
    (more : List UInt8) (fuel : Nat)
    (hfuel : 3 * (Utf8.bytes (Value.writeItems first values)).length + 2 ≤ fuel) :
    ReadsItems fuel first values more := by
  obtain ⟨fuel, rfl⟩ : ∃ k, fuel = k + 2 := ⟨fuel - 2, by omega⟩
  cases values with
  | nil => exact readsItems_nil first
  | cons v rest =>
    obtain ⟨hhead, hrest⟩ := hv
    have hpos := Value.length_write_pos hhead
    have hlength : 3 * ((Utf8.bytes v.write).length +
        (Utf8.bytes (Value.writeItems false rest)).length) ≤ fuel := by
      cases first with
      | true =>
        rw [Value.bytes_items, List.length_append] at hfuel
        omega
      | false =>
        rw [Value.bytes_later_items, List.length_cons, List.length_append] at hfuel
        omega
    have hnode := parseNode_write hhead (endsNumber_items rest more) fuel (by omega)
    exact hnode.items hhead (parseItems_write false hrest more fuel (by omega)) first
/-- Members are read back, whether a comma stands before them or not. -/
theorem parseMembers_write (first : Bool) {values : List (String × Value)}
    (hv : MembersExact values) (more : List UInt8) (fuel : Nat)
    (hfuel : 3 * (Utf8.bytes (Value.writeMembers first values)).length + 2 ≤ fuel) :
    ReadsMembers fuel first values more := by
  obtain ⟨fuel, rfl⟩ : ∃ k, fuel = k + 2 := ⟨fuel - 2, by omega⟩
  match values, hv, hfuel with
  | [], _, _ => exact readsMembers_nil first
  | (name, v) :: rest, ⟨hhead, hrest⟩, hfuel =>
    have hlength : 3 * ((Utf8.bytes v.write).length +
        (Utf8.bytes (Value.writeMembers false rest)).length) + 2 ≤ fuel := by
      cases first with
      | true =>
        rw [Value.bytes_members] at hfuel
        simp only [List.length_cons, List.length_append] at hfuel
        omega
      | false =>
        rw [Value.bytes_later_members] at hfuel
        simp only [List.length_cons, List.length_append] at hfuel
        omega
    have hnode := parseNode_write hhead (endsNumber_members rest more) fuel (by omega)
    exact hnode.members (parseMembers_write false hrest more fuel (by omega)) name first
end

/-- **A document that was written is read as what it was written for.** -/
theorem Document.parse_write {v : Value} (hv : v.Exact) :
    ∃ node, node.Shows v ∧
      Document.parse (Utf8.bytes v.write) = ⟨Utf8.bytes v.write, node, none⟩ := by
  have hends : EndsNumber [] := by simp [EndsNumber]
  obtain ⟨node, hshows, hparse⟩ := parseNode_write hv hends
    (3 * (Utf8.bytes v.write).length + 1) (by omega) 0
  rw [List.append_nil] at hparse
  refine ⟨node, hshows, ?_⟩
  simp only [Document.parse, hparse]
  rfl

end ImageBot.Json
