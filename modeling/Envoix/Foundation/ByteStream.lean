import Envoix.Foundation.ByteCodec

/-! # Byte streams

A transport delivers its bytes in chunks of its own choosing, and may end or fail at any point.
Reading an exact number of bytes asks for what is still missing until there is nothing missing. -/

namespace ByteCodec

/-- What is still to come, the error after the last chunk (without one the stream ends there), and
the sizes of the buffers that were offered to the transport so far.  An empty chunk is an end. -/
structure ByteStream where
  chunks : List Bytes
  failure : Option String
  requested : List Nat
deriving DecidableEq

namespace ByteStream

def bytes (self : ByteStream) : Bytes := self.chunks.flatten

/-- A stream with the requests that an operation made of it. -/
abbrev Reading (ε α : Type) := ExceptT ε (StateM ByteStream) α

def earlyEof : String := "early eof"

/-- `missing` bytes, from the chunks that come. -/
def fill (failure : Option String) : List Bytes → Nat → List Nat → Except String Bytes × ByteStream
  | chunks, 0, requested => (.ok [], ⟨chunks, failure, requested⟩)
  | [], missing + 1, requested =>
    (.error (failure.getD earlyEof), ⟨[], failure, requested ++ [missing + 1]⟩)
  | chunk :: chunks, missing + 1, requested =>
    let requested := requested ++ [missing + 1]
    if chunk = [] then (.error earlyEof, ⟨chunks, failure, requested⟩)
    else if missing + 1 < chunk.length then
      (.ok (chunk.take (missing + 1)), ⟨chunk.drop (missing + 1) :: chunks, failure, requested⟩)
    else
      let (filled, after) := fill failure chunks (missing + 1 - chunk.length) requested
      (filled.map (chunk ++ ·), after)

/-- `AsyncReadExt::read_exact` -/
def readExact {ε : Type} (io : String → ε) (length : Nat) : Reading ε Bytes :=
  ExceptT.mk fun stream =>
    let (filled, after) := fill stream.failure stream.chunks length stream.requested
    (filled.mapError io, after)

/-- A step that reads nothing, `…?`. -/
def attempt {ε α : Type} (result : Except ε α) : Reading ε α := ExceptT.mk (pure result)

theorem run_bind {ε α β : Type} (first : Reading ε α) (next : α → Reading ε β)
    (stream : ByteStream) :
    (first >>= next).run.run stream = match first.run.run stream with
      | (.ok a, after) => (next a).run.run after
      | (.error error, after) => (.error error, after) := by
  rw [ExceptT.run_bind, StateT.run_bind]
  rcases first.run.run stream with ⟨outcome, after⟩
  cases outcome <;> rfl

theorem run_attempt {ε α : Type} (result : Except ε α) (stream : ByteStream) :
    (attempt result).run.run stream = (result, stream) := rfl

/-- What an operation does to a stream: it asks for `limit` bytes at most at a time, and takes at
most `total` bytes from the front. -/
structure Takes (before : ByteStream) (limit total : Nat) (taken : Bytes) (after : ByteStream) :
    Prop where
  bytes : before.bytes = taken ++ after.bytes
  limited : taken.length ≤ total
  requested : ∃ made, after.requested = before.requested ++ made ∧ ∀ size ∈ made, size ≤ limit

theorem Takes.nothing (stream : ByteStream) (limit total : Nat) :
    stream.Takes limit total [] stream :=
  ⟨rfl, Nat.zero_le _, [], (List.append_nil _).symm, by simp⟩

theorem Takes.weaken {before after : ByteStream} {limit limit' total total' : Nat} {taken : Bytes}
    (takes : before.Takes limit total taken after) (wider : limit ≤ limit')
    (longer : total ≤ total') :
    before.Takes limit' total' taken after := by
  obtain ⟨made, requested, small⟩ := takes.requested
  exact ⟨takes.bytes, takes.limited.trans longer, made, requested,
    fun size member => (small size member).trans wider⟩

theorem Takes.append {before middle after : ByteStream} {limit total total' : Nat}
    {first second : Bytes} (left : before.Takes limit total first middle)
    (right : middle.Takes limit total' second after) :
    before.Takes limit (total + total') (first ++ second) after := by
  obtain ⟨made, requested, small⟩ := left.requested
  obtain ⟨made', requested', small'⟩ := right.requested
  refine ⟨by rw [left.bytes, right.bytes, List.append_assoc], ?_, made ++ made', ?_,
    fun size member => ?_⟩
  · rw [List.length_append]
    exact Nat.add_le_add left.limited right.limited
  · rw [requested', requested, List.append_assoc]
  · cases List.mem_append.mp member with
    | inl member => exact small size member
    | inr member => exact small' size member

/-- A request for what is missing comes before what the rest of the reading asks for. -/
theorem takes_request {before after : ByteStream} {limit missing : Nat} {taken : Bytes}
    (bytes : before.bytes = taken ++ after.bytes) (limited : taken.length ≤ limit)
    (small : missing ≤ limit) {made : List Nat}
    (requested : after.requested = before.requested ++ [missing] ++ made)
    (others : ∀ size ∈ made, size ≤ limit) : before.Takes limit limit taken after := by
  refine ⟨bytes, limited, missing :: made, by rw [requested, List.append_assoc]; rfl, ?_⟩
  intro size member
  cases List.mem_cons.mp member with
  | inl same => exact same ▸ small
  | inr member => exact others size member

theorem fill_takes (failure : Option String) (chunks : List Bytes) (missing : Nat)
    (requested : List Nat) :
    ∃ taken, ByteStream.Takes ⟨chunks, failure, requested⟩ missing missing taken
        (fill failure chunks missing requested).2 ∧
      ∀ filled, (fill failure chunks missing requested).1 = .ok filled → filled = taken ∧
        taken.length = missing := by
  induction chunks generalizing missing requested with
  | nil =>
    cases missing with
    | zero => exact ⟨[], .nothing _ _ _, fun filled full => by cases full; exact ⟨rfl, rfl⟩⟩
    | succ missing =>
      refine ⟨[], ?_, fun filled full => by cases full⟩
      exact takes_request rfl (Nat.zero_le _) (Nat.le_refl _) (List.append_nil _).symm (by simp)
  | cons chunk chunks ih =>
    cases missing with
    | zero => exact ⟨[], .nothing _ _ _, fun filled full => by cases full; exact ⟨rfl, rfl⟩⟩
    | succ missing =>
      unfold fill
      by_cases ended : chunk = []
      · rw [if_pos ended]
        refine ⟨[], ?_, fun filled full => by cases full⟩
        exact takes_request (by rw [ended]; rfl) (Nat.zero_le _) (Nat.le_refl _)
          (List.append_nil _).symm (by simp)
      rw [if_neg ended]
      by_cases more : missing + 1 < chunk.length
      · rw [if_pos more]
        have full : (chunk.take (missing + 1)).length = missing + 1 :=
          List.length_take_of_le (Nat.le_of_lt more)
        refine ⟨chunk.take (missing + 1), ?_, fun filled found => by cases found; exact ⟨rfl, full⟩⟩
        refine takes_request ?_ (Nat.le_of_eq full) (Nat.le_refl _)
          (List.append_nil _).symm (by simp)
        simp only [bytes, List.flatten_cons, ← List.append_assoc, List.take_append_drop]
      · -- the whole chunk, and what it leaves missing from the chunks after it
        rw [if_neg more]
        obtain ⟨taken, takes, complete⟩ :=
          ih (missing + 1 - chunk.length) (requested ++ [missing + 1])
        obtain ⟨made, grown, small⟩ := takes.requested
        have limited := takes.limited
        refine ⟨chunk ++ taken, ?_, ?_⟩
        · refine takes_request ?_ ?_ (Nat.le_refl _) grown (fun size member => ?_)
          · have after := takes.bytes
            simp only [bytes, List.flatten_cons, List.append_assoc] at after ⊢
            rw [after]
          · rw [List.length_append]
            omega
          · have bound := small size member
            omega
        · intro filled found
          cases result :
              (fill failure chunks (missing + 1 - chunk.length) (requested ++ [missing + 1])).1 with
          | error error => simp [result, Except.map] at found
          | ok others =>
            obtain ⟨rfl, length⟩ := complete others result
            simp only [result, Except.map, Except.ok.injEq] at found
            refine ⟨found.symm, ?_⟩
            rw [List.length_append]
            omega

theorem readExact_takes {ε : Type} (io : String → ε) (length : Nat) (stream : ByteStream) :
    ∃ taken, stream.Takes length length taken ((readExact io length).run.run stream).2 ∧
      ∀ filled, ((readExact io length).run.run stream).1 = .ok filled → filled = taken ∧
        taken.length = length := by
  obtain ⟨taken, takes, complete⟩ := fill_takes stream.failure stream.chunks length stream.requested
  refine ⟨taken, takes, fun filled found => complete filled ?_⟩
  change (fill stream.failure stream.chunks length stream.requested).1.mapError io =
    .ok filled at found
  cases result : (fill stream.failure stream.chunks length stream.requested).1 with
  | error error => simp [result, Except.mapError] at found
  | ok others => simpa [result, Except.mapError] using found

/-- A stream that does not end between its chunks gives as much as it has. -/
theorem fill_complete (failure : Option String) (chunks : List Bytes) (missing : Nat)
    (requested : List Nat) (flowing : ∀ chunk ∈ chunks, chunk ≠ [])
      (enough : missing ≤ chunks.flatten.length) :
    (∃ filled, (fill failure chunks missing requested).1 = .ok filled) ∧
      ∀ chunk ∈ (fill failure chunks missing requested).2.chunks, chunk ≠ [] := by
  induction chunks generalizing missing requested with
  | nil =>
    have nothing : missing = 0 := Nat.le_zero.mp enough
    subst nothing
    exact ⟨⟨[], rfl⟩, by simp [fill]⟩
  | cons chunk chunks ih =>
    cases missing with
    | zero => exact ⟨⟨[], rfl⟩, flowing⟩
    | succ missing =>
      unfold fill
      rw [if_neg (flowing chunk List.mem_cons_self)]
      by_cases more : missing + 1 < chunk.length
      · rw [if_pos more]
        refine ⟨⟨_, rfl⟩, fun other member => ?_⟩
        cases List.mem_cons.mp member with
        | inl same =>
          have left : 0 < (chunk.drop (missing + 1)).length := by rw [List.length_drop]; omega
          exact same ▸ List.ne_nil_of_length_pos left
        | inr member => exact flowing other (List.mem_cons_of_mem chunk member)
      · rw [if_neg more]
        rw [List.flatten_cons, List.length_append] at enough
        obtain ⟨⟨filled, found⟩, still⟩ :=
          ih (missing + 1 - chunk.length) (requested ++ [missing + 1])
          (fun other member => flowing other (List.mem_cons_of_mem chunk member)) (by omega)
        exact ⟨⟨chunk ++ filled, by simp only [found, Except.map]⟩, still⟩

/-- What `read_exact` gives of a stream that does not end between its chunks. -/
theorem readExact_complete {ε : Type} (io : String → ε) {stream : ByteStream}
    {wanted others : Bytes} (flowing : ∀ chunk ∈ stream.chunks, chunk ≠ [])
      (coming : stream.bytes = wanted ++ others) :
    ∃ after, (readExact io wanted.length).run.run stream = (.ok wanted, after) ∧
      after.bytes = others ∧ ∀ chunk ∈ after.chunks, chunk ≠ [] := by
  have enough : wanted.length ≤ stream.chunks.flatten.length := by
    have length := congrArg List.length coming
    rw [bytes, List.length_append] at length
    omega
  obtain ⟨⟨filled, found⟩, still⟩ :=
    fill_complete stream.failure stream.chunks wanted.length stream.requested flowing enough
  obtain ⟨taken, takes, complete⟩ :=
    fill_takes stream.failure stream.chunks wanted.length stream.requested
  obtain ⟨rfl, length⟩ := complete filled found
  obtain ⟨rfl, rest⟩ := List.append_inj (takes.bytes.symm.trans coming) length
  refine ⟨_, ?_, rest, still⟩
  change ((fill stream.failure stream.chunks filled.length stream.requested).1.mapError io, _) = _
  rw [found]
  rfl

end ByteStream

end ByteCodec
