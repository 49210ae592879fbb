import Mathlib.Data.List.Infix

/-!
# Information elements of a wireless beacon

`wireless_ie_parser.py` reads the element blob of a beacon: a row of (id, length, payload)
elements whose lengths the access point chose.  An element that announces more bytes than there
are ends the reading with a warning, and so does a single byte left at the end.

Elements encode prefix-free, so a blob has at most one reading: a row of elements followed by
bytes that no element begins.  The loop finds that reading, which is what makes its row the
longest one the blob begins with.
-/

set_option autoImplicit false

namespace NetConsole.Wireless

open List

/-! ## The parser of the source -/

/-- The payloads read so far by element id, each id's in the order they came. -/
abbrev Elements : Type := Std.HashMap UInt8 (List (List UInt8))

/-- `elements.setdefault(element_id, []).append(payload)`. -/
def Elements.append (elements : Elements) (elementId : UInt8) (payload : List UInt8) : Elements :=
  elements.insert elementId (elements.getD elementId [] ++ [payload])

/-- What follows the loop: a warning unless the loop stopped at the end of the blob. -/
def afterLoop (blob : List UInt8) (offset : Nat) (elements : Elements) (warnings : List String) :
    Elements × List String :=
  if offset ≠ blob.length then (elements, warnings ++ ["trailing_ie_bytes"])
  else (elements, warnings)

/-- The loop of `_iter_information_elements` from an offset on. -/
def elementLoop (blob : List UInt8) (offset : Nat) (elements : Elements)
    (warnings : List String) : Elements × List String :=
  if room : offset + 2 ≤ blob.length then
    let elementId := blob[offset]
    let length := blob[offset + 1].toNat
    if offset + 2 + length > blob.length then
      -- `break`: the offset already stands behind the header
      afterLoop blob (offset + 2) elements (warnings ++ [s!"truncated_ie_{elementId}"])
    else
      elementLoop blob (offset + 2 + length)
        (elements.append elementId ((blob.drop (offset + 2)).take length)) warnings
  else afterLoop blob offset elements warnings
termination_by blob.length - offset

/-- `_iter_information_elements`: the payloads by id, and the caller's list of warnings. -/
def iterInformationElements (blob : List UInt8) (warnings : List String) : Elements × List String :=
  elementLoop blob 0 ∅ warnings

/-! ## Well-formed elements -/

/-- An element whose length fits its length byte. -/
structure Element where
  id : UInt8
  payload : List UInt8
  fits : payload.length ≤ 255

/-- The bytes of an element: id, length, payload. -/
def Element.encode (element : Element) : List UInt8 :=
  element.id :: UInt8.ofNat element.payload.length :: element.payload

/-- The concatenated encoding of a row of elements. -/
def encodeAll (elements : List Element) : List UInt8 := elements.flatMap Element.encode

/-- The payloads of the elements with an id, in order. -/
def payloadsOf (elements : List Element) (id : UInt8) : List (List UInt8) :=
  (elements.filter (·.id = id)).map Element.payload

/-- The entry of an id among grouped payloads: an id no element has gets none. -/
def grouped (elements : List Element) (id : UInt8) : Option (List (List UInt8)) :=
  if payloadsOf elements id = [] then none else some (payloadsOf elements id)

/-- The longest prefix of the blob that is a concatenation of well-formed elements, as its
elements. -/
structure Longest (blob : List UInt8) (elements : List Element) : Prop where
  isPrefix : encodeAll elements <+: blob
  longest : ∀ others, encodeAll others <+: blob →
    (encodeAll others).length ≤ (encodeAll elements).length

/-- Bytes that no element begins. -/
def Stuck (rest : List UInt8) : Prop := ∀ element : Element, ¬element.encode <+: rest

variable {blob rest rest' : List UInt8} {elements others : List Element} {id : UInt8}

theorem encodeAll_cons (element : Element) (elements : List Element) :
    encodeAll (element :: elements) = element.encode ++ encodeAll elements := rfl

theorem encode_inj {one two : Element} (same : one.encode ++ rest = two.encode ++ rest') :
    one = two ∧ rest = rest' := by
  obtain ⟨_, payload, _⟩ := one
  obtain ⟨id', payload', fits'⟩ := two
  simp only [Element.encode, cons_append, List.cons.injEq] at same
  obtain ⟨rfl, lengths, same⟩ := same
  have length : payload.length = payload'.length := by
    have := congrArg UInt8.toNat lengths
    simp only [UInt8.toNat_ofNat'] at this
    omega
  obtain ⟨rfl, rfl⟩ := append_inj same length
  exact ⟨rfl, rfl⟩

/-- Before stuck bytes every row of elements is the beginning of the one that is there. -/
theorem prefix_of_stuck (stuck : Stuck rest)
    (begins : encodeAll others <+: encodeAll elements ++ rest) : others <+: elements := by
  induction others generalizing elements with
  | nil => exact nil_prefix
  | cons other others ih =>
    obtain ⟨tail, begins⟩ := begins
    rw [encodeAll_cons, append_assoc] at begins
    cases elements with
    | nil => exact absurd ⟨_, begins⟩ (stuck other)
    | cons element elements =>
      rw [encodeAll_cons, append_assoc] at begins
      obtain ⟨rfl, behind⟩ := encode_inj begins
      exact (prefix_cons_inj other).mpr (ih ⟨tail, behind⟩)

theorem length_encodeAll_le (begins : others <+: elements) :
    (encodeAll others).length ≤ (encodeAll elements).length ∧
      ((encodeAll elements).length ≤ (encodeAll others).length → others = elements) := by
  obtain ⟨behind, rfl⟩ := begins
  rw [encodeAll, encodeAll, flatMap_append, length_append]
  refine ⟨Nat.le_add_right _ _, fun short => ?_⟩
  cases behind with
  | nil => exact (append_nil others).symm
  | cons element behind =>
    simp only [flatMap_cons, Element.encode, length_append, length_cons] at short
    omega

theorem longest_of_stuck (stuck : Stuck rest) : Longest (encodeAll elements ++ rest) elements :=
  ⟨prefix_append _ _, fun _ begins => (length_encodeAll_le (prefix_of_stuck stuck begins)).1⟩

theorem Longest.eq_of_stuck (longest : Longest (encodeAll elements ++ rest) others)
    (stuck : Stuck rest) : others = elements :=
  (length_encodeAll_le (prefix_of_stuck stuck longest.isPrefix)).2
    (longest.longest elements (prefix_append _ _))

/-! ## What the loop reads -/

theorem getElem?_append (found : Elements) (elementId : UInt8) (payload : List UInt8) :
    (found.append elementId payload)[id]? =
      if elementId = id then some ((found[id]?).getD [] ++ [payload]) else found[id]? := by
  rw [Elements.append, Std.HashMap.getElem?_insert, Std.HashMap.getD_eq_getD_getElem?]
  by_cases same : elementId = id <;> simp [same]

/-- The dictionary after a row of elements was appended to it. -/
def Elements.appendAll (found : Elements) (elements : List Element) : Elements :=
  elements.foldl (fun found element => found.append element.id element.payload) found

theorem getElem?_appendAll (found : Elements) : (found.appendAll elements)[id]? =
      if payloadsOf elements id = [] then found[id]?
      else some ((found[id]?).getD [] ++ payloadsOf elements id) := by
  induction elements generalizing found with
  | nil => rfl
  | cons element elements ih =>
    rw [Elements.appendAll, foldl_cons, ← Elements.appendAll, ih, getElem?_append]
    by_cases same : element.id = id
    · by_cases last : payloadsOf elements id = [] <;> simp_all [payloadsOf]
    · simp [payloadsOf, same]

theorem afterLoop_eq (blob : List UInt8) (offset : Nat) (found : Elements)
    (warnings : List String) :
    ∃ more, afterLoop blob offset found warnings = (found, warnings ++ more) ∧
      (more = [] ↔ offset = blob.length) := by
  unfold afterLoop
  split
  · next short => exact ⟨_, rfl, by simpa using short⟩
  · next atEnd => exact ⟨[], by rw [append_nil], by simpa using atEnd⟩

theorem drop_header {offset : Nat} (room : offset + 2 ≤ blob.length) :
    blob.drop offset = blob[offset] :: blob[offset + 1] :: blob.drop (offset + 2) := by
  rw [drop_eq_getElem_cons (by omega), drop_eq_getElem_cons (by omega)]

theorem stuck_of_short (short : rest.length < 2) : Stuck rest := by
  intro element begins
  have := begins.length_le
  simp only [Element.encode, length_cons] at this
  omega

theorem stuck_of_truncated {elementId lengthByte : UInt8}
    (truncated : rest.length < lengthByte.toNat) : Stuck (elementId :: lengthByte :: rest) := by
  intro element begins
  have length := begins.length_le
  obtain ⟨_, begins⟩ := begins
  simp only [Element.encode, cons_append] at begins
  obtain ⟨-, rfl, -⟩ := begins
  have fits := element.fits
  simp only [Element.encode, length_cons, UInt8.toNat_ofNat'] at length truncated
  omega

/-- One induction over the loop: from an offset on it reads a row of elements up to bytes that
no element begins, and warns exactly if there are such bytes. -/
theorem elementLoop_reads (blob : List UInt8) (offset : Nat) (found : Elements)
    (warnings : List String) (within : offset ≤ blob.length) :
    ∃ elements rest, blob.drop offset = encodeAll elements ++ rest ∧ Stuck rest ∧
      (elementLoop blob offset found warnings).1 = found.appendAll elements ∧
      ((elementLoop blob offset found warnings).2 = warnings ↔ rest = []) := by
  fun_induction elementLoop blob offset found warnings with
  | case1 offset found room elementId length truncated =>
    obtain ⟨more, stops, -⟩ := afterLoop_eq blob (offset + 2) found
      (warnings ++ [s!"truncated_ie_{elementId}"])
    rw [stops, drop_header room]
    refine ⟨[], _, rfl, stuck_of_truncated ?_, rfl, iff_of_false (by simp) (cons_ne_nil _ _)⟩
    rw [length_drop]
    omega
  | case2 offset found room elementId length whole ih =>
    obtain ⟨elements, rest, behind, stuck, reads, warns⟩ := ih (by omega)
    obtain ⟨payload, isPayload⟩ : ∃ payload, payload = (blob.drop (offset + 2)).take length :=
      ⟨_, rfl⟩
    have lengthOf : payload.length = length := by
      rw [isPayload, length_take, length_drop]
      omega
    have fits : length ≤ 255 := Nat.le_of_lt_succ (UInt8.toNat_lt _)
    rw [← isPayload] at reads warns ⊢
    refine ⟨⟨elementId, payload, lengthOf.trans_le fits⟩ :: elements, rest, ?_, stuck, reads, warns⟩
    have lengthByte : UInt8.ofNat length = blob[offset + 1] := UInt8.ofNat_toNat
    rw [encodeAll_cons, append_assoc, ← behind, drop_header room]
    show _ = elementId :: UInt8.ofNat payload.length :: (payload ++ _)
    have behindPayload : (blob.drop (offset + 2)).drop length = blob.drop (offset + 2 + length) :=
      drop_drop
    rw [lengthOf, lengthByte, isPayload, ← behindPayload, take_append_drop]
  | case3 offset found short =>
    obtain ⟨more, stops, silent⟩ := afterLoop_eq blob offset found warnings
    rw [stops]
    refine ⟨[], _, rfl, stuck_of_short (by rw [length_drop]; omega), rfl, ?_⟩
    rw [append_right_eq_self, silent, drop_eq_nil_iff]
    omega

/-- Every blob has a longest prefix of well-formed elements; the parser returns its payloads by
id, in order and without an entry for an id it lacks, and warns unless the prefix is the whole
blob.  Elements that are encoded are read back. -/
theorem iterInformationElements_longest (blob : List UInt8) (warnings : List String) :
    (∃ elements, Longest blob elements) ∧ (∀ elements, Longest blob elements →
        (∀ id, (iterInformationElements blob warnings).1[id]? = grouped elements id) ∧
          ((iterInformationElements blob warnings).2 = warnings ↔ encodeAll elements = blob)) ∧
      ∀ (elements : List Element) (id : UInt8),
        (iterInformationElements (encodeAll elements) warnings).1[id]? = grouped elements id := by
  have reading : ∀ blob, ∃ elements rest, blob = encodeAll elements ++ rest ∧ Stuck rest ∧
      (∀ id, (iterInformationElements blob warnings).1[id]? = grouped elements id) ∧
      ((iterInformationElements blob warnings).2 = warnings ↔ rest = []) := by
    intro blob
    obtain ⟨elements, rest, splits, stuck, reads, warns⟩ :=
      elementLoop_reads blob 0 ∅ warnings (Nat.zero_le _)
    refine ⟨elements, rest, splits, stuck, fun id => ?_, warns⟩
    rw [iterInformationElements, reads, getElem?_appendAll, grouped]
    simp
  obtain ⟨elements, rest, splits, stuck, groups, warns⟩ := reading blob
  refine ⟨⟨elements, splits ▸ longest_of_stuck stuck⟩, ?_, fun encoded id => ?_⟩
  · intro others isLongest
    obtain rfl := Longest.eq_of_stuck (splits ▸ isLongest) stuck
    refine ⟨groups, warns.trans ?_⟩
    conv_rhs => rw [splits]
    simp
  · obtain ⟨_, _, splits, stuck, groups, -⟩ := reading (encodeAll encoded)
    have whole : Longest (encodeAll encoded) encoded :=
      ⟨prefix_rfl, fun _ begins => begins.length_le⟩
    obtain rfl := Longest.eq_of_stuck (splits ▸ whole) stuck
    exact groups id

end NetConsole.Wireless
