import CovertConnect.Crypto.Stream.Frames

namespace CovertConnect.Crypto.Codec

open CovertConnect.Data

/-! # Which record carries which nonce

As long as the nonce does not come round, a nonce names one record of a
sequence of frames: its frame and whether it is the header or the data. -/

variable (codec : Codec)

theorem next_nonce (place : Place) (frame : Frame codec.needed) :
    (codec.next place frame).nonce = place.nonce.inc (codec.stride place frame) := by
  by_cases within : place.count ≤ codec.encLimit
  · simp [next, finish, middle, step, stride, within, Nonce.inc_inc]
  · simp [next, finish, middle, step, stride, within]

@[simp] theorem next_count (place : Place) (frame : Frame codec.needed) :
    (codec.next place frame).count = place.count + frame.payload.length := rfl

theorem advance_nonce (place : Place) (frames : List (Frame codec.needed)) :
    (codec.advance place frames).nonce = place.nonce.inc (codec.span place frames) := by
  induction frames generalizing place with
  | nil => exact (Nonce.inc_zero _).symm
  | cons frame frames ih =>
      rw [advance_cons, ih, next_nonce, Nonce.inc_inc]
      rfl

theorem advance_count (place : Place) (frames : List (Frame codec.needed)) :
    (codec.advance place frames).count = place.count + (payloads frames).length := by
  induction frames generalizing place with
  | nil => rfl
  | cons frame frames ih =>
      rw [advance_cons, ih, next_count, payloads_cons, List.length_append, Nat.add_assoc]

theorem span_append (place : Place) (front back : List (Frame codec.needed)) :
    codec.span place (front ++ back) =
      codec.span place front + codec.span (codec.advance place front) back := by
  induction front generalizing place with
  | nil => exact (Nat.zero_add _).symm
  | cons frame front ih => simp only [List.cons_append, span, ih, advance_cons, Nat.add_assoc]

theorem records_congr {place place' : Place} (within : place.count ≤ codec.encLimit)
    (within' : place'.count ≤ codec.encLimit) (same : place.nonce = place'.nonce)
    (frame : Frame codec.needed) : codec.records place frame = codec.records place' frame := by
  simp only [records, middle, step, if_pos within, if_pos within', same]

/-- How far into the stride of its frame a record is sealed. -/
def offsets (frame : Frame codec.needed) : List (Nat × Bytes) :=
  [(0, codec.headerPlain frame), (max frame.padding.length 1, frame.payload)]

/-- Every record belongs to a frame that was sealed. -/
theorem mem_recordsAll {place : Place} {frames : List (Frame codec.needed)} {record : SealRecord}
    (logged : record ∈ codec.recordsAll place frames) :
    ∃ front frame back offset, frames = front ++ frame :: back ∧
      (codec.advance place front).count ≤ codec.encLimit ∧
      (offset, record.plain) ∈ codec.offsets frame ∧
      record.nonce = place.nonce.inc (codec.span place front + offset) := by
  induction frames generalizing place with
  | nil => cases logged
  | cons frame frames ih =>
      rw [recordsAll, List.mem_append] at logged
      rcases logged with here | later
      · refine ⟨[], frame, frames, ?_⟩
        by_cases within : place.count ≤ codec.encLimit
        · simp only [records, if_pos within, List.mem_cons, List.not_mem_nil, or_false] at here
          rcases here with rfl | rfl
          · exact ⟨0, rfl, within, List.mem_cons_self, (Nonce.inc_zero _).symm⟩
          · refine ⟨_, rfl, within, List.mem_cons_of_mem _ (List.mem_singleton.mpr rfl), ?_⟩
            simp [middle, step, within, span]
        · simp [records, within] at here
      · obtain ⟨front, found, back, offset, rfl, within, at_, nonce⟩ := ih later
        refine ⟨frame :: front, found, back, offset, rfl, within, at_, ?_⟩
        rw [nonce, next_nonce, Nonce.inc_inc, span, Nat.add_assoc]

/-- How far behind the start the records of a sequence of frames are sealed. -/
def distances : Place → List (Frame codec.needed) → List Nat
  | _, [] => []
  | place, frame :: frames =>
      (if place.count ≤ codec.encLimit then [0, max frame.padding.length 1] else []) ++
        (distances (codec.next place frame) frames).map (codec.stride place frame + ·)

theorem recordsAll_nonces (place : Place) (frames : List (Frame codec.needed)) :
    (codec.recordsAll place frames).map SealRecord.nonce =
      (codec.distances place frames).map place.nonce.inc := by
  induction frames generalizing place with
  | nil => rfl
  | cons frame frames ih =>
      have later : (codec.distances (codec.next place frame) frames).map
          (codec.next place frame).nonce.inc =
          ((codec.distances (codec.next place frame) frames).map
            (codec.stride place frame + ·)).map place.nonce.inc := by
        rw [List.map_map]
        apply List.map_congr_left
        intro distance _
        rw [next_nonce, Nonce.inc_inc]
        rfl
      rw [recordsAll, distances, List.map_append, List.map_append, ih, later]
      congr 1
      by_cases within : place.count ≤ codec.encLimit
      · simp [records, middle, step, within]
      · simp [records, within]

/-- The records of a sequence of frames are sealed one behind the other. -/
theorem distances_increasing (place : Place) (frames : List (Frame codec.needed)) :
    (codec.distances place frames).Pairwise (· < ·) ∧
      ∀ distance ∈ codec.distances place frames, distance < codec.span place frames := by
  induction frames generalizing place with
  | nil => exact ⟨List.Pairwise.nil, by simp [distances]⟩
  | cons frame frames ih =>
      obtain ⟨increasing, bounded⟩ := ih (codec.next place frame)
      have shifted : ((codec.distances (codec.next place frame) frames).map
          (codec.stride place frame + ·)).Pairwise (· < ·) := by
        rw [List.pairwise_map]
        exact increasing.imp fun below => Nat.add_lt_add_left below _
      by_cases within : place.count ≤ codec.encLimit
      · have stride : codec.stride place frame = max frame.padding.length 1 + 1 := if_pos within
        simp only [distances, if_pos within, span]
        constructor
        · apply List.pairwise_append.mpr
          refine ⟨by simp, shifted, ?_⟩
          intro first here second later
          obtain ⟨distance, _, rfl⟩ := List.mem_map.mp later
          simp only [List.mem_cons, List.not_mem_nil, or_false] at here
          omega
        · intro distance found
          rcases List.mem_append.mp found with here | later
          · simp only [List.mem_cons, List.not_mem_nil, or_false] at here
            omega
          · obtain ⟨behind, inside, rfl⟩ := List.mem_map.mp later
            exact Nat.add_lt_add_left (bounded behind inside) _
      · simp only [distances, if_neg within, span, List.nil_append]
        refine ⟨shifted, ?_⟩
        intro distance later
        obtain ⟨behind, inside, rfl⟩ := List.mem_map.mp later
        exact Nat.add_lt_add_left (bounded behind inside) _

section Unique

variable {codec}

theorem offset_lt {place : Place} {frame : Frame codec.needed} {offset : Nat} {plain : Bytes}
    (within : place.count ≤ codec.encLimit) (found : (offset, plain) ∈ codec.offsets frame) :
    offset < codec.stride place frame := by
  simp only [offsets, List.mem_cons, Prod.mk.injEq, List.not_mem_nil, or_false] at found
  rw [stride, if_pos within]
  omega

/-- Two sealed records at the same distance from the start are one record. -/
theorem same_distance {place : Place} {front front' back back' : List (Frame codec.needed)}
    {frame frame' : Frame codec.needed} {offset offset' : Nat} {plain plain' : Bytes}
    (split : front ++ frame :: back = front' ++ frame' :: back')
    (within : (codec.advance place front).count ≤ codec.encLimit)
    (within' : (codec.advance place front').count ≤ codec.encLimit)
    (found : (offset, plain) ∈ codec.offsets frame)
    (found' : (offset', plain') ∈ codec.offsets frame')
    (same : codec.span place front + offset = codec.span place front' + offset') :
    front = front' ∧ frame = frame' ∧ offset = offset' := by
  have below := offset_lt within found
  have below' := offset_lt within' found'
  rcases List.append_eq_append_iff.mp split with ⟨between, rfl, rest⟩ | ⟨between, rfl, rest⟩
  · cases between with
    | nil =>
        rw [List.nil_append, List.cons.injEq] at rest
        refine ⟨(List.append_nil _).symm, rest.1, ?_⟩
        rw [List.append_nil] at same
        omega
    | cons first between =>
        rw [List.cons_append, List.cons.injEq] at rest
        obtain ⟨rfl, _⟩ := rest
        rw [span_append, span] at same
        omega
  · cases between with
    | nil =>
        rw [List.nil_append, List.cons.injEq] at rest
        refine ⟨List.append_nil _, rest.1.symm, ?_⟩
        rw [List.append_nil] at same
        omega
    | cons first between =>
        rw [List.cons_append, List.cons.injEq] at rest
        obtain ⟨rfl, _⟩ := rest
        rw [span_append, span] at same
        omega

theorem distance_lt {place : Place} {front : List (Frame codec.needed)}
    {frame : Frame codec.needed} {offset : Nat} {plain : Bytes}
    (within : (codec.advance place front).count ≤ codec.encLimit)
    (found : (offset, plain) ∈ codec.offsets frame) (back : List (Frame codec.needed)) :
    codec.span place front + offset < codec.span place (front ++ frame :: back) := by
  have below := offset_lt within found
  rw [span_append, span]
  omega

/-- Only a header record is sealed under the nonce of the place where a frame
starts, and it is the header of that frame. -/
theorem header_at {start : Place} {front back : List (Frame codec.needed)} {record : SealRecord}
    (short : codec.span start (front ++ back) < 2 ^ 96)
    (logged : record ∈ codec.recordsAll start (front ++ back))
    (nonce : record.nonce = (codec.advance start front).nonce) :
    ∃ frame rest, back = frame :: rest ∧
      (codec.advance start front).count ≤ codec.encLimit ∧
      record.plain = codec.headerPlain frame := by
  obtain ⟨front', frame', back', offset, split, within', found, nonce'⟩ :=
    codec.mem_recordsAll logged
  have below : codec.span start front' + offset < codec.span start (front ++ back) := by
    rw [split]
    exact distance_lt within' found _
  have reached : codec.span start front ≤ codec.span start (front ++ back) := by
    rw [span_append]
    exact Nat.le_add_right _ _
  have same : codec.span start front = codec.span start front' + offset := by
    apply Nonce.inc_inj (by omega) (by omega)
    rw [← advance_nonce, ← nonce, nonce']
  cases back with
  | nil =>
      rw [List.append_nil] at below
      omega
  | cons frame rest =>
      by_cases within : (codec.advance start front).count ≤ codec.encLimit
      · have here : (0, codec.headerPlain frame) ∈ codec.offsets frame := List.mem_cons_self
        obtain ⟨rfl, rfl, rfl⟩ := same_distance split within within' here found (by omega)
        refine ⟨frame, rest, rfl, within, ?_⟩
        simp only [offsets, List.mem_cons, Prod.mk.injEq, List.not_mem_nil, or_false, true_and]
          at found
        rcases found with header | ⟨none, _⟩
        · exact header
        · omega
      · -- Nothing is sealed from here on, and too little before.
        exfalso
        rcases List.append_eq_append_iff.mp split with ⟨between, rfl, _⟩ | ⟨between, rfl, rest'⟩
        · rw [advance_count] at within within'
          rw [payloads_append, List.length_append] at within'
          omega
        · cases between with
          | nil =>
              rw [List.append_nil] at within
              exact within within'
          | cons first between =>
              rw [List.cons_append, List.cons.injEq] at rest'
              obtain ⟨rfl, _⟩ := rest'
              have before := distance_lt within' found between
              omega

/-- Only the data record of a frame is sealed under the nonce behind its
header. -/
theorem data_at {start : Place} {front back : List (Frame codec.needed)}
    {frame : Frame codec.needed} {record : SealRecord}
    (short : codec.span start (front ++ frame :: back) < 2 ^ 96)
    (within : (codec.advance start front).count ≤ codec.encLimit)
    (logged : record ∈ codec.recordsAll start (front ++ frame :: back))
    (nonce : record.nonce =
      (codec.middle (codec.advance start front) frame.padding.length).nonce) :
    record.plain = frame.payload := by
  obtain ⟨front', frame', back', offset, split, within', found, nonce'⟩ :=
    codec.mem_recordsAll logged
  have here : (max frame.padding.length 1, frame.payload) ∈ codec.offsets frame :=
    List.mem_cons_of_mem _ (List.mem_singleton.mpr rfl)
  have below : codec.span start front' + offset < codec.span start (front ++ frame :: back) := by
    rw [split]
    exact distance_lt within' found _
  have below' := distance_lt within here back
  have same : codec.span start front + max frame.padding.length 1 =
      codec.span start front' + offset := by
    apply Nonce.inc_inj (by omega) (by omega)
    rw [← nonce', nonce, middle, step, if_pos within, advance_nonce, Nonce.inc_inc]
  obtain ⟨rfl, rfl, rfl⟩ := same_distance split within within' here found same
  simp only [offsets, List.mem_cons, Prod.mk.injEq, List.not_mem_nil, or_false, true_and] at found
  rcases found with ⟨none, _⟩ | data
  · omega
  · exact data

end Unique

end CovertConnect.Crypto.Codec
