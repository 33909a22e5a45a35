import MessagingGateway.Store.Schema

/-!
# Frames of the long poll

`longPollFrameScanner` cuts what the provider streams into JSON arrays and objects. It
looks at quotes and brackets only, and its state carries over from one read to the next.
-/

namespace MessagingGateway.Client

open Store

def maxLongPollEnvelopeBytes : Nat := 4 * 2 ^ 20

def opens (value : UInt8) : Bool := value == 0x5b || value == 0x7b

def closes (value : UInt8) : Bool := value == 0x5d || value == 0x7d

def longPollSeparator (value : UInt8) (comma : Bool) : Bool :=
  value == 0x20 || value == 0x09 || value == 0x0d || value == 0x0a || comma && value == 0x2c

structure LongPollFrameScanner where
  frame : Bytes := []
  depth : Int := 0
  inString : Bool := false
  escaped : Bool := false
  started : Bool := false
  firstCloseBracket : Bool := false
  ended : Bool := false

def Brackets (first last : UInt8) : Prop :=
  first = 0x5b ∧ last = 0x5d ∨ first = 0x7b ∧ last = 0x7d

/-- What stands in an array or object up to its end, from within a string or not: strings,
arrays and objects, and bytes that are neither quotes nor brackets. -/
inductive Inside : Bool → Bytes → Prop
  | nil : Inside false []
  | byte {value rest} (hquote : value ≠ 0x22) (hopens : opens value = false)
      (hcloses : closes value = false) (h : Inside false rest) : Inside false (value :: rest)
  | quote {rest} (h : Inside true rest) : Inside false (0x22 :: rest)
  | char {value rest} (hquote : value ≠ 0x22) (hescape : value ≠ 0x5c)
      (h : Inside true rest) : Inside true (value :: rest)
  | escape {value rest} (h : Inside true rest) : Inside true (0x5c :: value :: rest)
  | unquote {rest} (h : Inside false rest) : Inside true (0x22 :: rest)
  | container {first last inner rest} (hbrackets : Brackets first last)
      (hinner : Inside false inner) (h : Inside false rest) :
      Inside false (first :: (inner ++ last :: rest))

/-- Every JSON array and every JSON object is a container. -/
def Container (text : Bytes) : Prop :=
  ∃ first inner last, Brackets first last ∧ Inside false inner ∧ text = first :: (inner ++ [last])

def Framed (piece : Bytes × Bytes) : Prop :=
  (∀ value ∈ piece.1, longPollSeparator value true = true) ∧ Container piece.2 ∧
    piece.2.length ≤ maxLongPollEnvelopeBytes

theorem Brackets.opening {first last : UInt8} (h : Brackets first last) : opens first = true ∧
    longPollSeparator first true = false ∧ first ≠ 0x22 ∧ first ≠ 0x5d := by
  rcases h with ⟨rfl, -⟩ | ⟨rfl, -⟩ <;> decide

theorem Brackets.closing {first last : UInt8} (h : Brackets first last) :
    closes last = true ∧ opens last = false ∧ last ≠ 0x22 := by
  rcases h with ⟨-, rfl⟩ | ⟨-, rfl⟩ <;> decide

namespace LongPollFrameScanner

variable {m : Type → Type} [Monad m] [MonadExcept String m] (emit : Bytes → m Unit)

/-- The end of a round of `Feed`, when the byte was appended to the frame. -/
def nested (scanner : LongPollFrameScanner) (value : UInt8) : m LongPollFrameScanner :=
  if scanner.inString then
    if scanner.escaped then pure { scanner with escaped := false }
    else if value = 0x5c then pure { scanner with escaped := true }
    else if value = 0x22 then pure { scanner with inString := false }
    else pure scanner
  else if value = 0x22 then pure { scanner with inString := true }
  else if opens value then pure { scanner with depth := scanner.depth + 1 }
  else if closes value then
    let scanner := { scanner with depth := scanner.depth - 1 }
    if scanner.depth < 0 then throw "invalid provider JSON container"
    else if scanner.depth = 0 then do
      emit scanner.frame
      pure { scanner with frame := [], started := false }
    else pure scanner
  else pure scanner

def next (scanner : LongPollFrameScanner) (value : UInt8) : m LongPollFrameScanner :=
  if scanner.ended then
    if longPollSeparator value false then pure scanner
    else throw "bytes after provider stream end marker"
  else if !scanner.started then
    if scanner.firstCloseBracket then
      if value = 0x5d then pure { scanner with firstCloseBracket := false, ended := true }
      else throw "invalid provider stream end marker"
    else if longPollSeparator value true then pure scanner
    else if value = 0x5d then pure { scanner with firstCloseBracket := true }
    else if opens value then pure { scanner with started := true, depth := 1, frame := [value] }
    else throw "provider frame is not a JSON container"
  else if maxLongPollEnvelopeBytes ≤ scanner.frame.length then
    throw "provider envelope exceeded durable inbox limit"
  else { scanner with frame := scanner.frame ++ [value] }.nested emit value

def feed (scanner : LongPollFrameScanner) (input : Bytes) : m LongPollFrameScanner :=
  input.foldlM (next emit) scanner

def feedAll (scanner : LongPollFrameScanner) (reads : List Bytes) : m LongPollFrameScanner :=
  reads.foldlM (feed emit) scanner

def reading (frame : Bytes) (depth : Int) (inString : Bool) (escaped : Bool := false) :
    LongPollFrameScanner :=
  { frame, depth, inString, escaped, started := true }

variable {emit} {scanner : LongPollFrameScanner} {frame input rest text : Bytes} {value : UInt8}
  {depth : Int} {quoted escaped : Bool}

theorem next_reading (hroom : frame.length < maxLongPollEnvelopeBytes) :
    (reading frame depth quoted escaped).next emit value =
      (reading (frame ++ [value]) depth quoted escaped).nested emit value := by
  simp [next, reading, Nat.not_le.2 hroom]

variable [LawfulMonad m]

theorem feed_append (xs ys : Bytes) :
    scanner.feed emit (xs ++ ys) = scanner.feed emit xs >>= fun scanner => scanner.feed emit ys :=
  List.foldlM_append

theorem feedAll_eq_feed (reads : List Bytes) :
    scanner.feedAll emit reads = scanner.feed emit reads.flatten := by
  induction reads generalizing scanner with
  | nil => rfl
  | cons read reads ih =>
    rw [List.flatten_cons, feed_append, feedAll, List.foldlM_cons]
    exact bind_congr fun scanner => ih

theorem feed_stays (h : ∀ value ∈ input, scanner.next emit value = pure scanner) :
    scanner.feed emit input = pure scanner := by
  induction input with
  | nil => rfl
  | cons value input ih =>
    rw [feed, List.foldlM_cons, h value List.mem_cons_self, pure_bind]
    exact ih fun value hvalue => h value (List.mem_cons_of_mem _ hvalue)

theorem feed_cons (hroom : (frame ++ [value] ++ rest).length ≤ maxLongPollEnvelopeBytes)
    (hnested : (reading (frame ++ [value]) depth quoted escaped).nested emit value = pure scanner) :
    (reading frame depth quoted escaped).feed emit (value :: rest) = scanner.feed emit rest := by
  simp only [List.length_append, List.length_singleton] at hroom
  rw [feed, List.foldlM_cons, next_reading (by omega), hnested, pure_bind, feed]

theorem feed_inside (h : Inside quoted text) (hdepth : 1 ≤ depth)
    (hroom : (frame ++ text).length ≤ maxLongPollEnvelopeBytes) :
    (reading frame depth quoted).feed emit text = pure (reading (frame ++ text) depth false) := by
  induction h generalizing frame depth with
  | nil => rw [List.append_nil, feed, List.foldlM_nil]
  | byte hquote hopens hcloses _ ih =>
    rw [List.append_cons] at hroom ⊢
    refine (feed_cons hroom ?_).trans (ih hdepth hroom)
    simp [nested, reading, hquote, hopens, hcloses]
  | quote _ ih | unquote _ ih =>
    rw [List.append_cons] at hroom ⊢
    exact (feed_cons hroom rfl).trans (ih hdepth hroom)
  | char hquote hescape _ ih =>
    rw [List.append_cons] at hroom ⊢
    refine (feed_cons hroom ?_).trans (ih hdepth hroom)
    simp [nested, reading, hquote, hescape]
  | escape _ ih =>
    rw [List.append_cons, List.append_cons] at hroom ⊢
    exact (feed_cons (by simpa using hroom) rfl).trans
      ((feed_cons hroom rfl).trans (ih hdepth hroom))
  | @container first last inner rest hbrackets _ _ ihInner ih =>
    obtain ⟨hopens, -, hquote, -⟩ := hbrackets.opening
    obtain ⟨hcloses, hopens', hquote'⟩ := hbrackets.closing
    have hframe : frame ++ first :: (inner ++ last :: rest) =
      frame ++ [first] ++ inner ++ [last] ++ rest := by simp
    rw [hframe] at hroom ⊢
    have hfirst : (reading (frame ++ [first]) depth false).nested emit first =
        pure (reading (frame ++ [first]) (depth + 1) false) := by
      simp [nested, reading, hopens, hquote]
    rw [feed_cons (by simpa using hroom) hfirst, feed_append,
      ihInner (by omega) (by simp at hroom ⊢; omega), pure_bind]
    refine (feed_cons hroom ?_).trans (ih hdepth hroom)
    simp [nested, reading, hcloses, hopens', hquote', show ¬ depth < 0 by omega,
      show depth ≠ 0 by omega]

theorem feed_container (h : Container text) (hroom : text.length ≤ maxLongPollEnvelopeBytes) :
    feed emit {} text = (do emit text; pure {}) := by
  obtain ⟨first, inner, last, hbrackets, hinner, rfl⟩ := h
  obtain ⟨hopens, hseparator, -, hend⟩ := hbrackets.opening
  obtain ⟨hcloses, hopens', hquote⟩ := hbrackets.closing
  simp only [List.length_cons, List.length_append, List.length_nil] at hroom
  have hfirst : next emit {} first = pure (reading [first] 1 false) := by
    simp [next, reading, hopens, hseparator, hend]
  rw [feed, List.foldlM_cons, hfirst, pure_bind, ← feed, feed_append,
    feed_inside hinner le_rfl (by simp; omega), pure_bind, feed, List.foldlM_cons,
    next_reading (by simp; omega)]
  simp [nested, reading, hcloses, hopens', hquote]

theorem feed_separators (h : ∀ value ∈ input, longPollSeparator value true = true) :
    feed emit {} input = pure {} :=
  feed_stays fun value hvalue => by simp [next, h value hvalue]

theorem feed_framed {pieces : List (Bytes × Bytes)} (h : ∀ piece ∈ pieces, Framed piece) :
    feed emit {} (pieces.flatMap fun piece => piece.1 ++ piece.2) =
      (do (pieces.map Prod.snd).forM emit; pure {}) := by
  induction pieces with
  | nil => simp [feed]
  | cons piece pieces ih =>
    obtain ⟨hseparators, hcontainer, hroom⟩ := h piece List.mem_cons_self
    have hrest := ih fun piece hpiece => h piece (List.mem_cons_of_mem _ hpiece)
    simp [feed_append, feed_separators hseparators, feed_container hcontainer hroom, hrest]

/-- However the stream is cut into reads, `emit` is given the texts it was made of. -/
theorem frames_exact {pieces : List (Bytes × Bytes)} {last blanks : Bytes} {reads : List Bytes}
    (hpieces : ∀ piece ∈ pieces, Framed piece)
    (hlast : ∀ value ∈ last, longPollSeparator value true = true)
    (hblanks : ∀ value ∈ blanks, longPollSeparator value false = true)
    (hreads : reads.flatten =
      (pieces.flatMap fun piece => piece.1 ++ piece.2) ++ (last ++ ([0x5d, 0x5d] ++ blanks))) :
    feedAll emit {} reads = (do (pieces.map Prod.snd).forM emit; pure { ended := true }) := by
  have hend : feed emit {} [0x5d, 0x5d] = pure { ended := true } := by
    simp [feed, next, longPollSeparator]
  have hafter : feed emit { ended := true } blanks = pure { ended := true } :=
    feed_stays fun value hvalue => by simp [next, hblanks value hvalue]
  simp only [feedAll_eq_feed, hreads, feed_append, feed_framed hpieces, feed_separators hlast, hend,
    hafter, bind_assoc, pure_bind]

/-- The array `["a\"]",[]]`. -/
def quotedArray : Bytes := [0x5b, 0x22, 0x61, 0x5c, 0x22, 0x5d, 0x22, 0x2c, 0x5b, 0x5d, 0x5d]

/-- The object `{"b":[1]}`. -/
def listObject : Bytes := [0x7b, 0x22, 0x62, 0x22, 0x3a, 0x5b, 0x31, 0x5d, 0x7d]

theorem quotedArray_container : Container quotedArray :=
  ⟨0x5b, _, 0x5d, .inl ⟨rfl, rfl⟩, .quote (.char (by decide) (by decide) (.escape (.char (by decide)
    (by decide) (.unquote (.byte (by decide) (by decide) (by decide)
      (@Inside.container 0x5b 0x5d [] [] (.inl ⟨rfl, rfl⟩) .nil .nil)))))), rfl⟩

theorem listObject_container : Container listObject :=
  ⟨0x7b, _, 0x7d, .inr ⟨rfl, rfl⟩,
    .quote (.char (by decide) (by decide) (.unquote (.byte (by decide)
    (by decide) (by decide) (@Inside.container 0x5b 0x5d [0x31] [] (.inl ⟨rfl, rfl⟩)
      (.byte (by decide) (by decide) (by decide) .nil) .nil)))), rfl⟩

/-- The reads are cut within the string, between the backslash and the quote. -/
theorem cut_array_exact :
    (feedAll (fun frame => modify (· ++ [frame]) :
      Bytes → ExceptT String (StateM (List Bytes)) Unit)
      {} [quotedArray.take 4, quotedArray.drop 4 ++
        0x2c :: listObject ++ [0x20, 0x5d, 0x5d]]).run.run
        [] = (.ok { ended := true }, [quotedArray, listObject]) := by
  rw [@frames_exact _ _ _ _ _ [([], quotedArray), ([0x2c], listObject)] [0x20] []]
  · rfl
  · rintro piece (_ | ⟨_, _ | ⟨_, ⟨⟩⟩⟩)
    · exact ⟨List.forall_mem_nil _, quotedArray_container, by decide +kernel⟩
    · exact ⟨by simp [longPollSeparator], listObject_container, by decide +kernel⟩
  · simp [longPollSeparator]
  · exact List.forall_mem_nil _
  · rfl

end LongPollFrameScanner

end MessagingGateway.Client
