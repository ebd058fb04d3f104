import FirmwareCapsule.Management.Capsule

namespace FirmwareCapsule.Management.Capsule

/-! Parts of a buffer. Parts that lie one behind the other are found again at the
places where they start, and a buffer that is cut at ascending places is put
together again from its parts. -/

def startsFrom (start : Nat) : List Bytes → List Nat
  | [] => []
  | part :: rest => start :: startsFrom (start + part.length) rest

@[simp] theorem length_startsFrom (start : Nat) (parts : List Bytes) :
    (startsFrom start parts).length = parts.length := by
  induction parts generalizing start with
  | nil => rfl
  | cons part rest induction => rw [startsFrom, List.length_cons, List.length_cons, induction]

theorem startsFrom_concat (start : Nat) (parts : List Bytes) (last : Bytes) :
    startsFrom start (parts ++ [last]) =
      startsFrom start parts ++ [start + parts.flatten.length] := by
  induction parts generalizing start with
  | nil => rfl
  | cons part rest induction =>
      rw [List.cons_append, startsFrom, induction, startsFrom, List.cons_append,
        List.flatten_cons, List.length_append, Nat.add_assoc]

theorem startsFrom_add (start shift : Nat) (parts : List Bytes) :
    startsFrom (start + shift) parts = (startsFrom start parts).map (· + shift) := by
  induction parts generalizing start with
  | nil => rfl
  | cons part rest induction =>
      rw [startsFrom, startsFrom, List.map_cons, ← induction, Nat.add_right_comm]

theorem le_of_mem_startsFrom {start place : Nat} {parts : List Bytes}
    (member : place ∈ startsFrom start parts) : start ≤ place := by
  induction parts generalizing start with
  | nil => cases member
  | cons part rest induction =>
      rcases List.mem_cons.mp member with here | later
      · omega
      · have bound := induction later
        omega

theorem add_le_of_mem_startsFrom {start place size : Nat} {parts : List Bytes}
    (long : ∀ part ∈ parts, size ≤ part.length) (member : place ∈ startsFrom start parts) :
    place + size ≤ start + parts.flatten.length := by
  induction parts generalizing start with
  | nil => cases member
  | cons part rest induction =>
      have here := long part List.mem_cons_self
      rw [List.flatten_cons, List.length_append]
      rcases List.mem_cons.mp member with first | later
      · omega
      · have bound := induction (fun other inRest =>
          long other (List.mem_cons_of_mem part inRest)) later
        omega

theorem lt_of_mem_startsFrom {start place : Nat} {parts : List Bytes}
    (filled : ∀ part ∈ parts, part ≠ []) (member : place ∈ startsFrom start parts) :
    place < start + parts.flatten.length := by
  have sizes : ∀ part ∈ parts, 1 ≤ part.length :=
    fun part inParts => List.length_pos_iff.mpr (filled part inParts)
  exact add_le_of_mem_startsFrom sizes member

theorem pairwise_startsFrom {start : Nat} {parts : List Bytes}
    (filled : ∀ part ∈ parts, part ≠ []) : (startsFrom start parts).Pairwise (· < ·) := by
  induction parts generalizing start with
  | nil => exact .nil
  | cons part rest induction =>
      have positive := List.length_pos_iff.mpr (filled part List.mem_cons_self)
      refine .cons ?_ (induction fun other inRest =>
        filled other (List.mem_cons_of_mem part inRest))
      intro place member
      have bound := le_of_mem_startsFrom member
      omega

theorem startsFrom_succ {start index place next : Nat} {parts : List Bytes} {part : Bytes}
    (here : parts[index]? = some part) (starts : (startsFrom start parts)[index]? = some place)
    (ends : (startsFrom start parts)[index + 1]? = some next) : next = place + part.length := by
  induction parts generalizing start index with
  | nil => cases here
  | cons first rest induction =>
      rw [startsFrom, List.getElem?_cons_succ] at ends
      cases index with
      | zero =>
          cases here
          cases starts
          cases rest with
          | nil => cases ends
          | cons following others =>
              cases ends
              rfl
      | succ index =>
          rw [List.getElem?_cons_succ] at here
          rw [startsFrom, List.getElem?_cons_succ] at starts
          exact induction here starts ends

theorem startsFrom_congr {start : Nat} {left right : List Bytes}
    (sizes : left.map List.length = right.map List.length) :
    startsFrom start left = startsFrom start right := by
  induction left generalizing start right with
  | nil =>
      rw [List.map_nil, eq_comm, List.map_eq_nil_iff] at sizes
      rw [sizes]
  | cons part rest induction =>
      cases right with
      | nil => cases sizes
      | cons other others =>
          rw [List.map_cons, List.map_cons, List.cons.injEq] at sizes
          rw [startsFrom, startsFrom, sizes.1, induction sizes.2]

/-! ## Offsets -/

theorem offsetsFrom_eq_map (start : Nat) (parts : List Bytes) :
    offsetsFrom start parts = (startsFrom start parts).map UInt64.ofNat := by
  induction parts generalizing start with
  | nil => rfl
  | cons part rest induction => rw [offsetsFrom, startsFrom, List.map_cons, induction]

theorem map_toNat_offsetsFrom {start : Nat} {parts : List Bytes}
    (filled : ∀ part ∈ parts, part ≠ []) (fits : start + parts.flatten.length ≤ UInt64.size) :
    (offsetsFrom start parts).map UInt64.toNat = startsFrom start parts := by
  rw [offsetsFrom_eq_map, List.map_map]
  conv => rhs; rw [← List.map_id (startsFrom start parts)]
  apply List.map_congr_left
  intro place member
  have bound := lt_of_mem_startsFrom filled member
  exact UInt64.toNat_ofNat_of_lt' (Nat.lt_of_lt_of_le bound fits)

/-! ## Cutting and putting together -/

@[simp] theorem length_partsAt (buffer : Bytes) (offsets : List UInt64) :
    (partsAt buffer offsets).length = offsets.length := by
  fun_induction partsAt buffer offsets with
  | case1 => rfl
  | case2 start => rfl
  | case3 start next rest induction =>
      rw [List.length_cons, induction]
      rfl

theorem getElem?_partsAt (buffer : Bytes) (offsets : List UInt64) (index : Nat) :
    (partsAt buffer offsets)[index]? = offsets[index]?.map fun start =>
      buffer.extract start.toNat
        ((offsets[index + 1]?.map UInt64.toNat).getD buffer.length) := by
  fun_induction partsAt buffer offsets generalizing index with
  | case1 => rfl
  | case2 start =>
      cases index with
      | zero => simp [List.take_of_length_le]
      | succ index => rfl
  | case3 start next rest induction =>
      cases index with
      | zero => rfl
      | succ index => exact induction index

theorem partsAt_append_flatten {front : Bytes} {parts : List Bytes} {offsets : List UInt64}
    (places : offsets.map UInt64.toNat = startsFrom front.length parts) :
    partsAt (front ++ parts.flatten) offsets = parts := by
  induction parts generalizing front offsets with
  | nil =>
      rw [startsFrom, List.map_eq_nil_iff] at places
      rw [places]
      rfl
  | cons part rest induction =>
      rw [startsFrom, List.map_eq_cons_iff] at places
      rcases places with ⟨offset, later, rfl, start, laterPlaces⟩
      cases rest with
      | nil =>
          rw [startsFrom, List.map_eq_nil_iff] at laterPlaces
          rw [laterPlaces, partsAt, start, List.drop_left]
          simp
      | cons next rest =>
          have behindPart : later.map UInt64.toNat =
              startsFrom (front ++ part).length (next :: rest) := by
            rw [laterPlaces, List.length_append]
          have restFound := induction behindPart
          rw [startsFrom, List.map_eq_cons_iff] at laterPlaces
          rcases laterPlaces with ⟨following, others, rfl, followingStart, _⟩
          rw [partsAt, start, followingStart, List.drop_left, List.flatten_cons]
          rw [List.append_assoc] at restFound
          rw [restFound, Nat.add_sub_cancel_left, List.take_left]

theorem append_flatten_partsAt {buffer : Bytes} {first : UInt64} {later : List UInt64}
    (ascending : (first :: later).Pairwise (· < ·))
    (inside : ∀ offset ∈ first :: later, offset.toNat ≤ buffer.length) :
    buffer.take first.toNat ++ (partsAt buffer (first :: later)).flatten = buffer ∧
      (first :: later).map UInt64.toNat =
        startsFrom first.toNat (partsAt buffer (first :: later)) := by
  induction later generalizing first with
  | nil => simp [partsAt, startsFrom]
  | cons next rest induction =>
      have step : first < next := (List.pairwise_cons.mp ascending).1 next List.mem_cons_self
      have nextInside := inside next (List.mem_cons_of_mem first List.mem_cons_self)
      rw [UInt64.lt_iff_toNat_lt] at step
      rcases induction (List.pairwise_cons.mp ascending).2 (fun offset member =>
        inside offset (List.mem_cons_of_mem first member)) with ⟨together, places⟩
      have partSize : ((buffer.drop first.toNat).take (next.toNat - first.toNat)).length =
          next.toNat - first.toNat := by
        rw [List.length_take, List.length_drop]
        omega
      have throughPart : buffer.take first.toNat ++
          (buffer.drop first.toNat).take (next.toNat - first.toNat) = buffer.take next.toNat := by
        rw [← List.take_add, Nat.add_sub_cancel' (Nat.le_of_lt step)]
      constructor
      · rw [partsAt, List.flatten_cons, ← List.append_assoc, throughPart]
        exact together
      · rw [partsAt, startsFrom, List.map_cons, places, partSize,
          Nat.add_sub_cancel' (Nat.le_of_lt step)]

end FirmwareCapsule.Management.Capsule
