import LinuxTutorial.Ipc.SockText

set_option autoImplicit false

namespace SockText

open CText

abbrev Tagged := Kind × UInt8

def taggedRecord (text : List UInt8) (stale : Buffer bufferSize) : List Tagged :=
  text.map (Kind.text, ·) ++
    (Kind.terminator, 0) :: (stale.bytes.drop (text.length + 1)).map (Kind.leftover, ·)

def taggedStream (pid : Int32) (stale : Nat → Buffer bufferSize) (count : Nat) :
    List Int → List Tagged
  | [] => []
  | size :: sizes =>
    (taggedRecord (message pid count) (stale count)).take size.toNat ++
      taggedStream pid stale (count + 1) sizes

def texts (bytes : List Tagged) : List UInt8 := (bytes.filter (·.1 = .text)).map Prod.snd

@[simp] theorem texts_append (first second : List Tagged) :
    texts (first ++ second) = texts first ++ texts second := by
  simp [texts]

theorem texts_flatten (pieces : List (List Tagged)) :
    texts pieces.flatten = pieces.flatMap texts := by
  induction pieces with
  | nil => rfl
  | cons piece pieces ih => simp [ih]

theorem texts_of_text {bytes : List Tagged} (only : ∀ byte, byte ∈ bytes → byte.1 = .text) :
    texts bytes = bytes.map Prod.snd := by
  have whole : bytes.filter (·.1 = .text) = bytes := by
    simpa [List.filter_eq_self] using only
  rw [texts, whole]

theorem texts_eq_nil {bytes : List Tagged} :
    texts bytes = [] ↔ Kind.text ∉ bytes.map Prod.fst := by
  simp only [texts, List.map_eq_nil_iff, List.filter_eq_nil_iff, decide_eq_true_eq, List.mem_map,
    not_exists, not_and]

theorem taggedRecord_bytes (text : List UInt8) (stale : Buffer bufferSize) :
    (taggedRecord text stale).map Prod.snd = stale.sprintf text := by
  have ids : (Prod.snd ∘ fun byte : UInt8 => (Kind.text, byte)) = id := rfl
  have rest : (Prod.snd ∘ fun byte : UInt8 => (Kind.leftover, byte)) = id := rfl
  simp [taggedRecord, Buffer.sprintf, Buffer.store, ids, rest]

theorem taggedRecord_kinds (text : List UInt8) (stale : Buffer bufferSize) :
    (taggedRecord text stale).map Prod.fst = recordKinds text.length := by
  have texts : (Prod.fst ∘ fun byte : UInt8 => (Kind.text, byte)) = fun _ => Kind.text := rfl
  have rest : (Prod.fst ∘ fun byte : UInt8 => (Kind.leftover, byte)) = fun _ => Kind.leftover := rfl
  simp [taggedRecord, recordKinds, texts, rest, stale.size_eq]

theorem taggedRecord_length {text : List UInt8} (stale : Buffer bufferSize)
    (fits : text.length < bufferSize) : (taggedRecord text stale).length = bufferSize := by
  have length := congrArg List.length (taggedRecord_kinds text stale)
  simp only [List.length_map, recordKinds, List.length_append, List.length_replicate,
    List.length_cons] at length
  omega

section Stream

variable {pid : Int32} {stale : Nat → Buffer bufferSize} {count : Nat} {sends : List Int}

theorem taggedStream_bytes (positive : ∀ size, size ∈ sends → 0 < size) :
    (taggedStream pid stale count sends).map Prod.snd =
      (clientThread pid stale count sends).stream := by
  induction sends generalizing count with
  | nil => rfl
  | cons size sizes ih =>
    have first : ¬ size ≤ 0 := by
      have sent := positive size List.mem_cons_self
      omega
    have later := fun other member => positive other (List.mem_cons_of_mem size member)
    simp [taggedStream, clientThread, first, ih later, List.map_take, taggedRecord_bytes]

theorem taggedStream_kinds :
    (taggedStream pid stale count sends).map Prod.fst = streamKinds pid count sends := by
  induction sends generalizing count with
  | nil => rfl
  | cons size sizes ih => simp [taggedStream, streamKinds, ih, List.map_take, taggedRecord_kinds]

theorem taggedStream_length (sized : ∀ size, size ∈ sends → 0 < size ∧ size ≤ bufferSize) :
    ((taggedStream pid stale count sends).length : Int) = sends.sum := by
  induction sends generalizing count with
  | nil => rfl
  | cons size sizes ih =>
    obtain ⟨positive, bound⟩ := sized size List.mem_cons_self
    have later := @ih (count + 1) fun other member => sized other (List.mem_cons_of_mem size member)
    have record := taggedRecord_length (stale count) (message_length pid count).2
    simp only [taggedStream, List.length_append, List.length_take, record, Nat.cast_add, later,
      List.sum_cons]
    omega

theorem texts_record (text : List UInt8) (stale : Buffer bufferSize) (size : Nat) :
    texts ((taggedRecord text stale).take size) = text.take size := by
  have line : texts ((text.map (Kind.text, ·)).take size) = text.take size := by
    have ids : (Prod.snd ∘ fun byte : UInt8 => (Kind.text, byte)) = id := rfl
    rw [texts_of_text, List.map_take, List.map_map, ids, List.map_id]
    intro byte member
    obtain ⟨char, _, rfl⟩ := List.mem_map.mp (List.mem_of_mem_take member)
    rfl
  have rest : texts ((((Kind.terminator, 0) :: (stale.bytes.drop (text.length + 1)).map
      (Kind.leftover, ·)) : List Tagged).take (size - text.length)) = [] := by
    rw [texts_eq_nil, List.map_take]
    intro member
    have among := List.mem_of_mem_take member
    simp at among
  rw [taggedRecord, List.take_append, texts_append, line, List.length_map, rest, List.append_nil]

theorem texts_stream (positive : ∀ size, size ∈ sends → 0 < size)
    (sent : ∀ (later : Nat) size, sends[later]? = some size →
      (message pid (count + later)).length ≤ size) :
    texts (taggedStream pid stale count sends) =
      (clientThread pid stale count sends).lines.flatten := by
  induction sends generalizing count with
  | nil => rfl
  | cons size sizes ih =>
    have first : ¬ size ≤ 0 := by
      have sent := positive size List.mem_cons_self
      omega
    have line : (message pid count).length ≤ size := sent 0 size rfl
    have later := ih (fun other member => positive other (List.mem_cons_of_mem size member))
      (fun after other found => by
        have moved : count + 1 + after = count + (after + 1) := by omega
        rw [moved]
        exact sent (after + 1) other found)
    have whole : (message pid count).take size.toNat = message pid count :=
      List.take_of_length_le (by omega)
    simp [taggedStream, clientThread, first, texts_record, whole, later]

-- No more text goes out than was formatted, and as much only if each send took its line.
theorem texts_stream_length (positive : ∀ size, size ∈ sends → 0 < size) :
    (texts (taggedStream pid stale count sends)).length ≤
        (clientThread pid stale count sends).lines.flatten.length ∧
      ((clientThread pid stale count sends).lines.flatten.length ≤
          (texts (taggedStream pid stale count sends)).length →
        ∀ (later : Nat) size, sends[later]? = some size →
          (message pid (count + later)).length ≤ size) := by
  induction sends generalizing count with
  | nil => exact ⟨Nat.le_refl _, fun _ later size found => by simp at found⟩
  | cons size sizes ih =>
    have first : ¬ size ≤ 0 := by
      have sent := positive size List.mem_cons_self
      omega
    obtain ⟨bound, tight⟩ := @ih (count + 1)
      fun other member => positive other (List.mem_cons_of_mem size member)
    simp only [taggedStream, clientThread, first, if_false, texts_append, texts_record,
      List.length_append, List.length_take, List.flatten_cons]
    constructor
    · omega
    · intro enough later other found
      cases later with
      | zero =>
        obtain rfl : size = other := by simpa using found
        simp only [Nat.add_zero]
        omega
      | succ later =>
        have moved : count + (later + 1) = count + 1 + later := by omega
        rw [moved]
        exact tight (by omega) later other found

end Stream

def Faithful (byte : Tagged) : Prop :=
  (byte.1 = .text → 10 ≤ byte.2) ∧ (byte.1 = .terminator → byte.2 = 0)

theorem faithful_stream {pid : Int32} {stale : Nat → Buffer bufferSize} {count : Nat}
    {sends : List Int} {byte : Tagged} (member : byte ∈ taggedStream pid stale count sends) :
    Faithful byte := by
  induction sends generalizing count with
  | nil => cases member
  | cons size sizes ih =>
    rcases List.mem_append.mp member with sent | later
    · have record := List.mem_of_mem_take sent
      simp only [taggedRecord, List.mem_append, List.mem_cons, List.mem_map] at record
      rcases record with ⟨char, printable, rfl⟩ | rfl | ⟨char, _, rfl⟩
      · exact ⟨fun _ => message_printable printable, nofun⟩
      · exact ⟨nofun, fun _ => rfl⟩
      · exact ⟨nofun, nofun⟩
    · exact ih later

section Pieces

variable {stale : Nat → Buffer bufferSize} {iteration : Nat} {pieces : List (List Tagged)}

theorem cstring_whole {piece : List Tagged} (buffer : Buffer bufferSize)
    (faithful : ∀ byte, byte ∈ piece → Faithful byte) (whole : Whole (piece.map Prod.fst)) :
    cstring (buffer.store (piece.map Prod.snd)) = some (texts piece) := by
  obtain ⟨text, rest, kinds, only, none⟩ := whole
  obtain ⟨first, second, rfl, rfl, after⟩ := List.map_eq_append_iff.mp kinds
  obtain ⟨⟨kind, byte⟩, last, rfl, rfl, rfl⟩ := List.map_eq_cons_iff.mp after
  have terminator : byte = 0 :=
    (faithful (Kind.terminator, byte) (by simp)).2 rfl
  have shown : texts first = first.map Prod.snd := by
    apply texts_of_text
    intro byte member
    exact only byte.1 (List.mem_map_of_mem member)
  have silent : texts ((Kind.terminator, byte) :: last) = [] := by
    rw [texts_eq_nil]
    simpa using none
  have nonzero : 0 ∉ first.map Prod.snd := by
    intro member
    obtain ⟨char, inside, zero⟩ := List.mem_map.mp member
    have text := only char.1 (List.mem_map_of_mem inside)
    have printable := (faithful char (by simp [inside])).1 text
    rw [zero] at printable
    exact absurd printable (by decide)
  rw [texts_append, shown, silent, List.append_nil, Buffer.store]
  simp only [List.map_append, List.map_cons, terminator, List.append_assoc, List.cons_append]
  exact cstring_text _ nonzero

theorem serverThread_whole
    (faithful : ∀ piece, piece ∈ pieces → ∀ byte, byte ∈ piece → Faithful byte)
    (whole : ∀ piece, piece ∈ pieces → Whole (piece.map Prod.fst)) :
    serverThread stale iteration ((pieces.map (List.map Prod.snd)).map .bytes) =
      some (pieces.flatMap texts) := by
  induction pieces generalizing iteration with
  | nil => rfl
  | cons piece pieces ih =>
    have later := @ih (iteration + 1)
      (fun other member => faithful other (List.mem_cons_of_mem _ member))
      (fun other member => whole other (List.mem_cons_of_mem _ member))
    have text := cstring_whole (stale iteration) (faithful piece List.mem_cons_self)
      (whole piece List.mem_cons_self)
    cases piece with
    | nil =>
      obtain ⟨text, rest, kinds, _⟩ := whole [] List.mem_cons_self
      simp at kinds
    | cons byte bytes =>
      simp only [List.map_cons] at text later ⊢
      rw [serverThread, text, later]
      rfl

-- With ones behind every piece, a piece is printed up to a terminator of its own.
theorem cstring_shown {piece : List Tagged} {text : List UInt8}
    (faithful : ∀ byte, byte ∈ piece → Faithful byte)
    (leftover : ∀ byte, byte ∈ piece → byte.1 = .leftover → byte.2 = 1)
    (found : cstring ((Buffer.fill bufferSize 1).store (piece.map Prod.snd)) = some text) :
    ∃ first rest, piece = first ++ (Kind.terminator, 0) :: rest ∧ first.map Prod.snd = text := by
  have unended : 0 ∉ (Buffer.fill bufferSize 1).bytes.drop (piece.map Prod.snd).length := by
    intro zero
    have one := (List.mem_replicate.mp (List.mem_of_mem_drop zero)).2
    exact absurd one (by decide)
  obtain ⟨rest, bytes⟩ := cstring_inside unended found
  obtain ⟨first, second, rfl, shown, after⟩ := List.map_eq_append_iff.mp bytes
  obtain ⟨⟨kind, byte⟩, last, rfl, rfl, _⟩ := List.map_eq_cons_iff.mp after
  refine ⟨first, last, ?_, shown⟩
  cases kind with
  | terminator => rfl
  | text =>
    have printable := (faithful (Kind.text, 0) (by simp)).1 rfl
    exact absurd printable (by decide)
  | leftover =>
    have one := leftover (Kind.leftover, 0) (by simp) rfl
    exact absurd one (by decide)

theorem text_of_printable {bytes : List Tagged} (faithful : ∀ byte, byte ∈ bytes → Faithful byte)
    (leftover : ∀ byte, byte ∈ bytes → byte.1 = .leftover → byte.2 = 1)
    (printable : ∀ byte, byte ∈ bytes.map Prod.snd → 10 ≤ byte) :
    ∀ byte, byte ∈ bytes → byte.1 = .text := by
  intro byte member
  have visible := printable byte.2 (List.mem_map_of_mem member)
  cases kind : byte.1 with
  | text => rfl
  | terminator =>
    rw [(faithful byte member).2 kind] at visible
    exact absurd visible (by decide)
  | leftover =>
    rw [leftover byte member kind] at visible
    exact absurd visible (by decide)

-- Printable output is text, and as much text as was received only if no piece hid any.
theorem serverThread_shown {output : List UInt8}
    (nonempty : ∀ piece, piece ∈ pieces → piece ≠ [])
    (faithful : ∀ piece, piece ∈ pieces → ∀ byte, byte ∈ piece → Faithful byte)
    (leftover : ∀ piece, piece ∈ pieces → ∀ byte, byte ∈ piece → byte.1 = .leftover → byte.2 = 1)
    (completed : serverThread (fun _ => Buffer.fill bufferSize 1) iteration
      ((pieces.map (List.map Prod.snd)).map .bytes) = some output)
    (printable : ∀ byte, byte ∈ output → 10 ≤ byte) :
    output.length ≤ (pieces.flatMap texts).length ∧
      ((pieces.flatMap texts).length ≤ output.length →
        ∀ piece, piece ∈ pieces → Whole (piece.map Prod.fst)) := by
  induction pieces generalizing iteration output with
  | nil =>
    obtain rfl : [] = output := Option.some.inj completed
    exact ⟨Nat.le_refl _, fun _ piece member => by cases member⟩
  | cons piece pieces ih =>
    cases piece with
    | nil => exact absurd rfl (nonempty [] List.mem_cons_self)
    | cons byte bytes =>
      simp only [List.map_cons, serverThread] at completed
      obtain ⟨text, shown, completed⟩ := Option.bind_eq_some_iff.mp completed
      obtain ⟨later, rest, same⟩ := Option.bind_eq_some_iff.mp completed
      obtain rfl : text ++ later = output := Option.some.inj same
      obtain ⟨bound, tight⟩ := ih
        (fun other member => nonempty other (List.mem_cons_of_mem _ member))
        (fun other member => faithful other (List.mem_cons_of_mem _ member))
        (fun other member => leftover other (List.mem_cons_of_mem _ member)) rest
        (fun byte member => printable byte (List.mem_append_right _ member))
      obtain ⟨first, behind, split, rfl⟩ := cstring_shown (faithful _ List.mem_cons_self)
        (leftover _ List.mem_cons_self) shown
      rw [split]
      have part (char : Tagged) (member : char ∈ first) : char ∈ byte :: bytes := by
        simp [split, member]
      have only := text_of_printable
        (fun char member => faithful _ List.mem_cons_self char (part char member))
        (fun char member => leftover _ List.mem_cons_self char (part char member))
        (fun char member => printable char (List.mem_append_left _ member))
      have mark : texts [(Kind.terminator, 0)] = [] := rfl
      have parts : texts (first ++ (Kind.terminator, 0) :: behind) =
          first.map Prod.snd ++ texts behind := by
        rw [texts_append, texts_of_text only, ← List.singleton_append, texts_append, mark,
          List.nil_append]
      simp only [List.flatMap_cons, parts, List.length_append]
      constructor
      · omega
      · intro enough other member
        rcases List.mem_cons.mp member with rfl | member
        · have hidden : texts behind = [] := List.length_eq_zero_iff.mp (by omega)
          refine ⟨first.map Prod.fst, behind.map Prod.fst, by simp, ?_, texts_eq_nil.mp hidden⟩
          intro kind member
          obtain ⟨char, inside, rfl⟩ := List.mem_map.mp member
          exact only char inside
        · exact tight (by omega) other member

end Pieces

theorem leftover_stream {pid : Int32} {count : Nat} {sends : List Int} {byte : Tagged}
    (member : byte ∈ taggedStream pid (fun _ => Buffer.fill bufferSize 1) count sends)
    (leftover : byte.1 = .leftover) : byte.2 = 1 := by
  induction sends generalizing count with
  | nil => cases member
  | cons size sizes ih =>
    rcases List.mem_append.mp member with sent | later
    · have record := List.mem_of_mem_take sent
      simp only [taggedRecord, List.mem_append, List.mem_cons, List.mem_map] at record
      rcases record with ⟨char, _, rfl⟩ | rfl | ⟨char, stale, rfl⟩
      · cases leftover
      · cases leftover
      · exact (List.mem_replicate.mp (List.mem_of_mem_drop stale)).2
    · exact ih later

section Run

variable {pid : Int32} {sends : List Int} {cuts : List Nat}

theorem printed_tagged (clientStale serverStale : Nat → Buffer bufferSize)
    (sized : ∀ size, size ∈ sends → 0 < size ∧ size ≤ 1024) :
    printed pid sends cuts clientStale serverStale =
      serverThread serverStale 0
        (((cut cuts (taggedStream pid clientStale 0 sends)).map (List.map Prod.snd)).map
          .bytes) := by
  rw [printed, ← taggedStream_bytes fun size member => (sized size member).1, cut_map]

theorem lines_printable {count : Nat} {stale : Nat → Buffer bufferSize} {byte : UInt8}
    (member : byte ∈ (clientThread pid stale count sends).lines.flatten) : 10 ≤ byte := by
  induction sends generalizing count with
  | nil => cases member
  | cons size sizes ih =>
    simp only [clientThread] at member
    split_ifs at member
    · cases member
    · rcases List.mem_append.mp member with line | later
      · exact message_printable line
      · exact ih later

theorem framed_prints (framed : Framed pid sends cuts)
    (sized : ∀ size, size ∈ sends → 0 < size ∧ size ≤ 1024)
    (received : (cuts.sum : Int) = sends.sum) (clientStale serverStale : Nat → Buffer bufferSize) :
    printed pid sends cuts clientStale serverStale = some (sentLines pid sends clientStale) := by
  have positive := fun size member => (sized size member).1
  let stream := taggedStream pid clientStale 0 sends
  have whole : cuts.sum = stream.length := by
    have length : (stream.length : Int) = sends.sum := taggedStream_length sized
    omega
  have pieces : ∀ piece, piece ∈ cut cuts stream → Whole (piece.map Prod.fst) := by
    intro piece member
    apply framed.pieces
    rw [← taggedStream_kinds, cut_map]
    exact List.mem_map_of_mem member
  have sent : ∀ (later : Nat) size, sends[later]? = some size →
      (message pid (0 + later)).length ≤ size := by
    intro later size found
    rw [Nat.zero_add]
    exact framed.sent later size found
  rw [printed_tagged clientStale serverStale sized, serverThread_whole _ pieces,
    ← texts_flatten, cut_flatten cuts stream whole, texts_stream positive sent, sentLines]
  intro piece member byte inside
  exact faithful_stream (mem_cut member inside)

theorem prints_framed (sized : ∀ size, size ∈ sends → 0 < size ∧ size ≤ 1024)
    (cutSized : ∀ size, size ∈ cuts → 0 < size) (received : (cuts.sum : Int) = sends.sum)
    (prints : printed pid sends cuts (fun _ => Buffer.fill bufferSize 1)
      (fun _ => Buffer.fill bufferSize 1) =
        some (sentLines pid sends fun _ => Buffer.fill bufferSize 1)) :
    Framed pid sends cuts := by
  have positive := fun size member => (sized size member).1
  let stream := taggedStream pid (fun _ => Buffer.fill bufferSize 1) 0 sends
  have whole : cuts.sum = stream.length := by
    have length : (stream.length : Int) = sends.sum := taggedStream_length sized
    omega
  rw [printed_tagged _ _ sized] at prints
  obtain ⟨shown, noneHidden⟩ := serverThread_shown
    (fun piece member => cut_ne_nil cutSized whole member)
    (fun piece member byte inside => faithful_stream (mem_cut member inside))
    (fun piece member byte inside => leftover_stream (mem_cut member inside)) prints
    (fun byte member => lines_printable member)
  obtain ⟨sent, noneCut⟩ := @texts_stream_length pid (fun _ => Buffer.fill bufferSize 1) 0 sends
    positive
  rw [← texts_flatten, cut_flatten cuts stream whole] at shown noneHidden
  constructor
  · intro count size found
    have line := noneCut shown count size found
    rwa [Nat.zero_add] at line
  · intro piece member
    rw [← @taggedStream_kinds pid fun _ => Buffer.fill bufferSize 1, cut_map] at member
    obtain ⟨bytes, inside, rfl⟩ := List.mem_map.mp member
    exact noneHidden sent bytes inside

end Run

theorem framed_records (pid : Int32) (count : Nat) :
    Framed pid (List.replicate count 1024) (List.replicate count 1024) where
  sent position size found := by
    obtain ⟨_, rfl⟩ : position < count ∧ 1024 = size := by
      simpa [List.getElem?_replicate] using found
    have line := (message_length pid position).2
    simp only [bufferSize] at line
    omega
  pieces := by
    have whole (start : Nat) : ∀ piece,
        piece ∈ cut (List.replicate count 1024)
          (streamKinds pid start (List.replicate count 1024)) → Whole piece := by
      induction count generalizing start with
      | zero => simp [cut]
      | succ count ih =>
        have line := (message_length pid start).2
        have record : (recordKinds (message pid start).length).length = 1024 := by
          simp only [recordKinds, bufferSize, List.length_append, List.length_replicate,
            List.length_cons] at line ⊢
          omega
        have all : (recordKinds (message pid start).length).take (1024 : Int).toNat =
            recordKinds (message pid start).length := List.take_of_length_le record.le
        intro piece member
        simp only [List.replicate_succ, streamKinds, all, cut, List.mem_cons] at member
        rcases member with rfl | member
        · rw [List.take_left' record]
          refine ⟨_, _, rfl, fun kind member => (List.mem_replicate.mp member).2, ?_⟩
          simp [List.mem_replicate]
        · rw [List.drop_left' record] at member
          exact ih (start + 1) piece member
    exact whole 0

theorem prints_sent_lines_iff_framed (pid : Int32) (sends : List Int) (cuts : List Nat)
    (sized : ∀ size, size ∈ sends → 0 < size ∧ size ≤ 1024)
    (cutSized : ∀ size, size ∈ cuts → 0 < size ∧ size ≤ 1024)
    (received : (cuts.sum : Int) = sends.sum) :
    (∀ clientStale serverStale : Nat → Buffer bufferSize,
      printed pid sends cuts clientStale serverStale = some (sentLines pid sends clientStale)) ↔
      Framed pid sends cuts := by
  constructor
  · intro prints
    exact prints_framed sized (fun size member => (cutSized size member).1) received (prints _ _)
  · intro framed clientStale serverStale
    exact framed_prints framed sized received clientStale serverStale

theorem prints_sent_lines_iff_framed_records :
    printed 7 [1024, 1024] [1024, 1024] (fun _ => Buffer.fill bufferSize 65)
        (fun _ => Buffer.fill bufferSize 66) =
      some (sentLines 7 [1024, 1024] (fun _ => Buffer.fill bufferSize 65)) :=
  (prints_sent_lines_iff_framed 7 [1024, 1024] [1024, 1024] (by simp) (by simp) rfl).mpr
    (framed_records 7 2) (fun _ => Buffer.fill bufferSize 65) (fun _ => Buffer.fill bufferSize 66)

-- One record, received as its first ten bytes and the rest: the first string has no end.
theorem short_receive_prints_garbage :
    ¬ ∀ (pid : Int32) (sends : List Int) (cuts : List Nat),
      (∀ size, size ∈ sends → 0 < size ∧ size ≤ 1024) →
      (∀ size, size ∈ cuts → 0 < size ∧ size ≤ 1024) → (cuts.sum : Int) = sends.sum →
        ∀ clientStale serverStale : Nat → Buffer bufferSize,
          printed pid sends cuts clientStale serverStale =
            some (sentLines pid sends clientStale) := by
  intro prints
  have framed : Framed 7 [1024] [10, 1014] :=
    prints_framed (by simp) (by simp) rfl (prints 7 [1024] [10, 1014] (by simp) (by simp) rfl _ _)
  obtain ⟨text, rest, split, _⟩ := framed.pieces (List.replicate 10 .text) List.mem_cons_self
  have terminator : Kind.terminator ∈ List.replicate 10 Kind.text := by simp [split]
  cases (List.mem_replicate.mp terminator).2

end SockText
