import DeviceHost.Proofs.Buffering
import DeviceHost.Proofs.Octets

/-!
# Lists of devices, entry by entry

The authority gives the devices of a service as one list. `decodeEntries_listBody` says that each
entry of it is read as it would be read as a document by itself. So an entry that is no device,
whatever is wrong with it, leaves the others as they are.

* `read?_listBody` — the tree of a list has the trees of its entries as items: no entry changes how
  the octets of another one are read;
* `Device.decodeEntries_of_buffer` — the entries go into the buffer as generic values, with all
  their members in their order and with repeated names, and the devices are looked for there;
* `Device.agree_read` — what is found in the buffer is what is read from the document by itself.
-/

namespace DeviceHost

open Json

/-- The octets of a list: its entries in brackets, with commas between them. -/
def listBody (es : List (List UInt8)) : List UInt8 :=
  0x5B :: ([0x2C].intercalate es ++ [0x5D])

/-- The body of a list decodes to the decoded entries between brackets, with commas between them. -/
theorem decode_listBody (es : List (List UInt8)) :
    Utf8.decode (listBody es)
      = some '[' :: ([some ','].intercalate (es.map Utf8.decode) ++ [some ']']) := by
  have hopen := Utf8.decode_append_ascii [] (show (0x5B : UInt8) < 0x80 by decide)
    ([0x2C].intercalate es ++ [0x5D])
  have hclose := Utf8.decode_append_ascii ([0x2C].intercalate es)
    (show (0x5D : UInt8) < 0x80 by decide) []
  rw [Utf8.decode_intercalate (by decide)] at hclose
  rw [hclose] at hopen
  exact hopen

/-- The list of documents is the array of their trees. -/
theorem read?_listBody {es : List (List UInt8)}
    (hes : ∀ e ∈ es, (Node.read? (Utf8.decode e)).isSome) :
    ∃ ns, List.Forall₂ (fun e n => Node.read? (Utf8.decode e) = some n) es ns ∧
      Node.read? (Utf8.decode (listBody es)) = some (.array ns) := by
  obtain ⟨ns, hns⟩ : ∃ ns, List.Forall₂ (fun e n => Node.read? (Utf8.decode e) = some n) es ns := by
    refine ⟨es.map fun e => (Node.read? (Utf8.decode e)).getD .null, ?_⟩
    refine List.forall₂_map_right_iff.mpr (List.forall₂_same.mpr fun e he => ?_)
    obtain ⟨n, hn⟩ := Option.isSome_iff_exists.mp (hes e he)
    rw [hn, Option.getD_some]
  refine ⟨ns, hns, ?_⟩
  rw [decode_listBody]
  exact Node.read?_array (List.forall₂_map_left_iff.mpr hns)

/-- What a list gives depends on the generic values in the buffer alone. -/
theorem Device.decodeEntries_of_buffer {body : List UInt8} {js : List Json}
    (h : Json.read? (Utf8.decode body) = some (.array js)) :
    decodeEntries body = .ok (js.map schema.ofBuffered?) := by
  obtain ⟨n, hread, hjson⟩ := Option.bind_eq_some_iff.mp h
  simp only [decodeEntries, hread, hjson]

/-- Whether a record is found, and which one, depends on the tree alone. -/
theorem Schema.toOption_decode {α : Type} (s : Schema α) {e : List UInt8} {n : Node}
    (h : Node.read? (Utf8.decode e) = some n) : (s.decode e).toOption = (s.read n).toOption := by
  simp only [decode, h]
  cases s.read n with
  | ok a => rfl
  | error p =>
    simp only
    split <;> rfl

/-- The devices in the buffer are those that the entries give as documents by themselves. -/
theorem Device.map_ofBuffered?_eq_map_decode {es : List (List UInt8)} {js : List Json}
    (h : List.Forall₂ (fun e j => Node.read? (Utf8.decode e) = some (node j)) es js) :
    js.map schema.ofBuffered? = es.map fun e => (decode e).toOption := by
  induction h with
  | nil => rfl
  | @cons e j es js he _ ih =>
    have hfound : schema.ofBuffered? j = (decode e).toOption :=
      (agree_read j).trans (Schema.toOption_decode schema he).symm
    rw [List.map_cons, List.map_cons, ih, hfound]

/-- **A list is decoded entry by entry**: of a list that is a generic value, made of any documents,
each entry that is a device by itself gives that device, in its place, and every other entry is
passed over. -/
theorem decodeEntries_listBody {es : List (List UInt8)}
    (hes : ∀ e ∈ es, (Node.read? (Utf8.decode e)).isSome)
    (hbody : (Json.read? (Utf8.decode (listBody es))).isSome) :
    Device.decodeEntries (listBody es) = .ok (es.map fun e => (Device.decode e).toOption) ∧
      (Device.decodeEntries (listBody es)).map (List.filterMap id)
        = .ok (es.filterMap fun e => (Device.decode e).toOption) := by
  obtain ⟨ns, hns, htree⟩ := read?_listBody hes
  obtain ⟨v, hv⟩ := Option.isSome_iff_exists.mp hbody
  have hnode : v.node = .array ns := Option.some.inj ((node_of_read? hv).symm.trans htree)
  -- the value of the list has no faults, so its items are those of the tree
  obtain ⟨js, rfl, rfl⟩ : ∃ js, v = .array js ∧ js.map node = ns := by
    cases v with
    | array js =>
      rw [node, itemNodes_eq_map, Node.array.injEq] at hnode
      exact ⟨js, rfl, hnode⟩
    | _ => cases hnode
  rw [List.forall₂_map_right_iff] at hns
  have hentries : Device.decodeEntries (listBody es)
      = .ok (es.map fun e => (Device.decode e).toOption) := by
    rw [Device.decodeEntries_of_buffer hv, Device.map_ofBuffered?_eq_map_decode hns]
  refine ⟨hentries, ?_⟩
  rw [hentries]
  simp only [Except.map, List.filterMap_map]
  rfl

/-- A list in which the second and the fourth entry are no devices. -/
def mixedEntries : List (List UInt8) :=
  ["\x7b\"id\": \"1\", \"name\": \"a\",
        \"protocols\": \x7b\"z\": \x7b\x7d, \"m\": \x7b\x7d, \"z\": \x7b\x7d\x7d\x7d",
    "\x7b\"name\": \"b\"\x7d", " [\"2\", \"c\"] ", "42"].map Utf8.ofString

theorem decodeEntries_listBody_of_mixed :
    (∀ e ∈ mixedEntries, (Node.read? (Utf8.decode e)).isSome) ∧
    (Json.read? (Utf8.decode (listBody mixedEntries))).isSome ∧
    (Device.decodeEntries (listBody mixedEntries)).map (List.filterMap id)
      = .ok [{ Device.ofName "1" "a" "" with
          protocols := [.ofName "z", .ofName "m", .ofName "z"] }, .ofName "2" "c" ""] := by
  have hes : ∀ e ∈ mixedEntries, (Node.read? (Utf8.decode e)).isSome := by decide +kernel
  have hbody : (Json.read? (Utf8.decode (listBody mixedEntries))).isSome := by decide +kernel
  refine ⟨hes, hbody, ?_⟩
  rw [(decodeEntries_listBody hes hbody).2]
  exact congrArg Except.ok (by decide +kernel)

end DeviceHost
