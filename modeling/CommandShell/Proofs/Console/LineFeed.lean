import Mathlib.Data.List.Basic
import Mathlib.Data.List.Induction
import Mathlib.Data.Stream.Init
import CommandShell.Console.LineFeed

/-!
# The lines of a stream

A feed has one future: the delivery in its slot, the one that its reader holds, what the
reader will read, and then the end of input for ever.  No move changes it but the one that
takes its first delivery off.
-/

namespace CommandShell

namespace LineFeed

/-- The pieces of a stream: they end after each newline, and the rest of the stream
is a last piece unless it is empty. -/
inductive Cut : List UInt8 → List (List UInt8) → Prop
  | nil : Cut [] []
  | last {piece : List UInt8} : piece ≠ [] → newline ∉ piece → Cut piece [piece]
  | cons {content rest : List UInt8} {pieces : List (List UInt8)} :
      newline ∉ content → Cut rest pieces →
      Cut (content ++ newline :: rest) ((content ++ [newline]) :: pieces)

theorem firstPiece_of_not_mem {bytes : List UInt8} (hnone : newline ∉ bytes) :
    firstPiece bytes = (bytes, []) := by
  induction bytes with
  | nil => rfl
  | cons byte rest ih =>
      rw [List.mem_cons, not_or] at hnone
      simp [firstPiece, Ne.symm hnone.1, ih hnone.2]

theorem firstPiece_append_newline {content : List UInt8} (hnone : newline ∉ content)
    (rest : List UInt8) :
    firstPiece (content ++ newline :: rest) = (content ++ [newline], rest) := by
  induction content with
  | nil => simp [firstPiece]
  | cons byte content ih =>
      rw [List.mem_cons, not_or] at hnone
      simp [firstPiece, Ne.symm hnone.1, ih hnone.2]

theorem pieces_of_ne_nil {bytes : List UInt8} (hbytes : bytes ≠ []) :
    pieces bytes = (firstPiece bytes).1 :: pieces (firstPiece bytes).2 := by
  cases bytes with
  | nil => exact (hbytes rfl).elim
  | cons byte rest => rw [pieces]

theorem pieces_nil : pieces [] = [] := by
  rw [pieces]

theorem Cut.eq_pieces {bytes : List UInt8} {cut : List (List UInt8)}
    (hcut : Cut bytes cut) : cut = pieces bytes := by
  induction hcut with
  | nil => exact pieces_nil.symm
  | last hpiece hnone =>
      rw [pieces_of_ne_nil hpiece, firstPiece_of_not_mem hnone, pieces_nil]
  | cons hnone _ ih =>
      rw [pieces_of_ne_nil (by simp), firstPiece_append_newline hnone, ← ih]

theorem cut_pieces (bytes : List UInt8) : Cut bytes (pieces bytes) := by
  induction bytes using pieces.induct with
  | case1 =>
      rw [pieces_nil]
      exact .nil
  | case2 byte rest ih =>
      rw [pieces]
      by_cases hmem : newline ∈ byte :: rest
      · obtain ⟨content, later, hsplit, hnone⟩ := List.eq_append_cons_of_mem hmem
        rw [hsplit, firstPiece_append_newline hnone] at ih ⊢
        exact .cons hnone ih
      · rw [firstPiece_of_not_mem hmem, pieces_nil]
        exact .last (by simp) hmem

theorem Cut.ne_nil_of_mem {bytes : List UInt8} {cut : List (List UInt8)}
    (hcut : Cut bytes cut) : ∀ piece ∈ cut, piece ≠ [] := by
  induction hcut with
  | nil => simp
  | last hpiece _ => simpa using hpiece
  | cons _ _ ih => simpa using ih

def encoded (text : String) : List UInt8 :=
  text.toUTF8.data.toList

theorem encoded_eq_flatMap (text : String) :
    encoded text = text.toList.flatMap String.utf8EncodeChar := by
  rw [encoded, String.toUTF8_eq_toByteArray, ← String.utf8Encode_toList, List.utf8Encode,
    List.toList_data_toByteArray]

theorem encoded_append (first second : String) :
    encoded (first ++ second) = encoded first ++ encoded second := by
  simp [encoded_eq_flatMap]

theorem decode?_eq_some_iff {bytes : List UInt8} {text : String} :
    decode? bytes = some text ↔ encoded text = bytes := by
  have hbytes : text.toByteArray = ⟨bytes.toArray⟩ ↔ encoded text = bytes := by
    rw [encoded, String.toUTF8_eq_toByteArray, ByteArray.ext_iff, ← Array.toList_inj]
  rw [← hbytes, decode?, String.fromUTF8?]
  split
  · rename_i hvalid
    rw [Option.some.injEq, ← String.toByteArray_inj, eq_comm]
    rfl
  · rename_i hinvalid
    constructor
    · simp
    · intro hsame
      exact (hinvalid (hsame ▸ text.isValidUTF8)).elim

/-! ## Line ends -/

def LineEnd (byte : UInt8) : Prop :=
  byte = newline ∨ byte = carriageReturn

def EndsLine (char : Char) : Prop :=
  char = '\n' ∨ char = '\r'

theorem utf8EncodeChar_of_endsLine {char : Char} (hchar : EndsLine char) :
    ∃ byte, String.utf8EncodeChar char = [byte] ∧ LineEnd byte := by
  rcases hchar with rfl | rfl
  · exact ⟨newline, by decide, Or.inl rfl⟩
  · exact ⟨carriageReturn, by decide, Or.inr rfl⟩

theorem endsLine_of_getLast? {char : Char} {byte : UInt8}
    (hlast : (String.utf8EncodeChar char).getLast? = some byte) (hbyte : LineEnd byte) :
    EndsLine char := by
  -- no byte of an encoded character but the first can be a line end
  have hfirst : byte.IsUTF8FirstByte := by
    rcases hbyte with rfl | rfl <;> decide
  have hsize : char.utf8Size = 1 := by
    rw [List.getLast?_eq_getElem?, List.getElem?_eq_some_iff] at hlast
    obtain ⟨hindex, hget⟩ := hlast
    rw [← hget, UInt8.isUTF8FirstByte_getElem_utf8EncodeChar,
      String.length_utf8EncodeChar] at hfirst
    have hpos := char.utf8Size_pos
    omega
  have hsmall := Char.utf8Size_eq_one_iff.mp hsize
  rw [String.utf8EncodeChar_eq_singleton hsize, List.getLast?_singleton,
    Option.some.injEq] at hlast
  have hvalue : char.val.toNat = byte.toNat := by
    have hbound : char.val.toNat ≤ 127 := hsmall
    rw [← hlast, UInt32.toNat_toUInt8]
    omega
  rcases hbyte with rfl | rfl
  · exact Or.inl (Char.ext (UInt32.toNat_inj.mp hvalue))
  · exact Or.inr (Char.ext (UInt32.toNat_inj.mp hvalue))

theorem exists_longest_end {Element : Type} (ends : Element → Prop) (list : List Element) :
    ∃ kept last, list = kept ++ last ∧ (∀ element ∈ last, ends element) ∧
      ∀ element, kept.getLast? = some element → ¬ ends element := by
  induction list using List.reverseRecOn with
  | nil => exact ⟨[], [], rfl, by simp, by simp⟩
  | append_singleton init element ih =>
      by_cases hends : ends element
      · obtain ⟨kept, last, rfl, hlast, hkept⟩ := ih
        refine ⟨kept, last ++ [element], by simp, ?_, hkept⟩
        intro other hmem
        rcases List.mem_append.mp hmem with hother | hother
        · exact hlast other hother
        · exact List.mem_singleton.mp hother ▸ hends
      · refine ⟨init ++ [element], [], by simp, by simp, ?_⟩
        intro other hother
        rw [List.getLast?_concat, Option.some.injEq] at hother
        exact hother ▸ hends

theorem withoutLineEnd_append {kept last : List UInt8}
    (hlast : ∀ byte ∈ last, LineEnd byte)
    (hkept : ∀ byte, kept.getLast? = some byte → ¬ LineEnd byte) :
    withoutLineEnd (kept ++ last) = kept := by
  unfold withoutLineEnd
  rw [List.reverse_append, List.dropWhile_append_of_pos]
  · cases hreverse : kept.reverse with
    | nil => simpa using hreverse.symm
    | cons byte rest =>
        have hbyte := hkept byte (by simp [← List.head?_reverse, hreverse])
        rw [List.dropWhile_cons_of_neg, ← hreverse, List.reverse_reverse]
        simpa [LineEnd] using hbyte
  · intro byte hmem
    simpa [LineEnd] using hlast byte (List.mem_reverse.mp hmem)

theorem lineEnd_of_mem_encoded {ends : String} (hends : ∀ char ∈ ends.toList, EndsLine char) :
    ∀ byte ∈ encoded ends, LineEnd byte := by
  intro byte hmem
  rw [encoded_eq_flatMap] at hmem
  obtain ⟨char, hchar, hbyte⟩ := List.mem_flatMap.mp hmem
  obtain ⟨only, hencoded, honly⟩ := utf8EncodeChar_of_endsLine (hends char hchar)
  rw [hencoded, List.mem_singleton] at hbyte
  exact hbyte ▸ honly

theorem exists_encoded_of_lineEnd {bytes : List UInt8}
    (hbytes : ∀ byte ∈ bytes, LineEnd byte) : ∃ text, encoded text = bytes := by
  induction bytes with
  | nil => exact ⟨"", rfl⟩
  | cons byte rest ih =>
      obtain ⟨hbyte, hrest⟩ := List.forall_mem_cons.mp hbytes
      obtain ⟨text, rfl⟩ := ih hrest
      rcases hbyte with rfl | rfl
      · exact ⟨"\n" ++ text, by rw [encoded_append]; rfl⟩
      · exact ⟨"\r" ++ text, by rw [encoded_append]; rfl⟩

theorem not_lineEnd_of_getLast?_encoded {text : String}
    (htext : ∀ char, text.toList.getLast? = some char → ¬ EndsLine char) :
    ∀ byte, (encoded text).getLast? = some byte → ¬ LineEnd byte := by
  intro byte hlast hbyte
  rw [encoded_eq_flatMap] at hlast
  rcases List.eq_nil_or_concat text.toList with hnil | ⟨init, char, hsplit⟩
  · simp [hnil] at hlast
  · have hchar := htext char (by simp [hsplit])
    rw [hsplit, List.concat_eq_append, List.flatMap_append, List.flatMap_singleton,
      List.getLast?_append_of_ne_nil _ String.utf8EncodeChar_ne_nil] at hlast
    exact hchar (endsLine_of_getLast? hlast hbyte)

/-! ## Deliveries -/

/-- The line that a piece spells in UTF-8: the text of the piece without the newlines
and carriage returns at its end. -/
def Spells (piece : List UInt8) (text : String) : Prop :=
  ∃ ends : String, piece = encoded (text ++ ends) ∧
    (∀ char ∈ ends.toList, EndsLine char) ∧
    ∀ char, text.toList.getLast? = some char → ¬ EndsLine char

theorem exists_spells (whole : String) : ∃ text, Spells (encoded whole) text := by
  obtain ⟨kept, last, hsplit, hlast, hkept⟩ := exists_longest_end EndsLine whole.toList
  have hwhole : whole = String.ofList kept ++ String.ofList last := by
    rw [← String.ofList_append, ← hsplit, String.ofList_toList]
  refine ⟨String.ofList kept, String.ofList last, by rw [← hwhole], ?_, ?_⟩
  · simpa using hlast
  · simpa using hkept

theorem Spells.withoutLineEnd_eq {piece : List UInt8} {text : String}
    (hspells : Spells piece text) : withoutLineEnd piece = encoded text := by
  obtain ⟨ends, rfl, hends, htext⟩ := hspells
  rw [encoded_append]
  exact withoutLineEnd_append (lineEnd_of_mem_encoded hends)
    (not_lineEnd_of_getLast?_encoded htext)

theorem Spells.deliver_eq {piece : List UInt8} {text : String}
    (hspells : Spells piece text) (hpiece : piece ≠ []) : deliver piece = .line text := by
  have hdecode := decode?_eq_some_iff.mpr hspells.withoutLineEnd_eq.symm
  cases piece with
  | nil => exact (hpiece rfl).elim
  | cons byte rest => simp only [deliver, hdecode]

theorem deliver_eq_invalid {piece : List UInt8} (hpiece : piece ≠ [])
    (hinvalid : ∀ text, piece ≠ encoded text) : deliver piece = .invalid := by
  have hdecode : decode? (withoutLineEnd piece) = none := by
    rw [Option.eq_none_iff_forall_ne_some]
    intro text hsome
    obtain ⟨kept, last, rfl, hlast, hkept⟩ := exists_longest_end LineEnd piece
    rw [withoutLineEnd_append hlast hkept, decode?_eq_some_iff] at hsome
    obtain ⟨ends, rfl⟩ := exists_encoded_of_lineEnd hlast
    exact hinvalid (text ++ ends) (by rw [encoded_append, hsome])
  cases piece with
  | nil => exact (hpiece rfl).elim
  | cons byte rest => simp only [deliver, hdecode]

/-- What comes of pieces in order: a line of each, up to the first that is not UTF-8. -/
inductive Delivers : List (List UInt8) → List Delivery → Prop
  | nil : Delivers [] []
  | line {piece : List UInt8} {text : String} {rest : List (List UInt8)}
      {deliveries : List Delivery} :
      Spells piece text → Delivers rest deliveries →
      Delivers (piece :: rest) (.line text :: deliveries)
  | invalid {piece : List UInt8} {rest : List (List UInt8)} :
      (∀ text, piece ≠ encoded text) → Delivers (piece :: rest) [.invalid]

theorem Delivers.eq_deliveriesOf {pieces : List (List UInt8)} {delivered : List Delivery}
    (hdelivers : Delivers pieces delivered) (hpieces : ∀ piece ∈ pieces, piece ≠ []) :
    delivered = deliveriesOf pieces := by
  induction hdelivers with
  | nil => rfl
  | line hspells _ ih =>
      obtain ⟨hpiece, hrest⟩ := List.forall_mem_cons.mp hpieces
      rw [deliveriesOf, hspells.deliver_eq hpiece, ← ih hrest]
  | invalid hinvalid =>
      rw [deliveriesOf, deliver_eq_invalid (hpieces _ (by simp)) hinvalid]

theorem delivers_deliveriesOf {pieces : List (List UInt8)}
    (hpieces : ∀ piece ∈ pieces, piece ≠ []) : Delivers pieces (deliveriesOf pieces) := by
  induction pieces with
  | nil => exact .nil
  | cons piece rest ih =>
      obtain ⟨hpiece, hrest⟩ := List.forall_mem_cons.mp hpieces
      by_cases hvalid : ∃ whole, piece = encoded whole
      · obtain ⟨whole, rfl⟩ := hvalid
        obtain ⟨text, hspells⟩ := exists_spells whole
        rw [deliveriesOf, hspells.deliver_eq hpiece]
        exact .line hspells (ih hrest)
      · have hinvalid : ∀ text, piece ≠ encoded text := fun text hsame =>
          hvalid ⟨text, hsame⟩
        rw [deliveriesOf, deliver_eq_invalid hpiece hinvalid]
        exact .invalid hinvalid

theorem delivers_iff {bytes : List UInt8} {delivered : List Delivery} :
    (∃ pieces, Cut bytes pieces ∧ Delivers pieces delivered) ↔
      delivered = deliveries bytes := by
  constructor
  · rintro ⟨pieces, hcut, hdelivers⟩
    rw [hdelivers.eq_deliveriesOf hcut.ne_nil_of_mem, hcut.eq_pieces]
    rfl
  · rintro rfl
    have hcut := cut_pieces bytes
    exact ⟨pieces bytes, hcut, delivers_deliveriesOf hcut.ne_nil_of_mem⟩

example : deliveries [97, 13, 10, 10, 98, 10, 255, 10, 99] =
    [.line "a", .line "", .line "b", .invalid] := by
  decide +kernel

end LineFeed

/-! ## Reads that nothing can upset -/

namespace Feed

/-- What a reader will hand over, the end of input apart. -/
def Reader.ahead (unread : List UInt8) : Reader → List Delivery
  | .reading => LineFeed.deliveries unread
  | .holding (.line text) => .line text :: LineFeed.deliveries unread
  | .holding delivery => [delivery]
  | .finished => []
  | .stopped => []

/-- What the reads of a feed deliver from now on. -/
def future (feed : Feed) : Stream' Delivery :=
  (feed.slot.toList ++ feed.reader.ahead feed.unread) ++ₛ Stream'.const .ended

theorem Reader.ahead_read (unread : List UInt8) :
    let piece := LineFeed.firstPiece unread
    Reader.ahead piece.2 (.holding (LineFeed.deliver piece.1)) ++ₛ Stream'.const .ended =
      Reader.ahead unread .reading ++ₛ Stream'.const .ended := by
  intro piece
  have hended : [Delivery.ended] ++ₛ Stream'.const .ended = Stream'.const .ended :=
    (Stream'.const_eq Delivery.ended).symm
  by_cases hunread : unread = []
  · subst hunread
    have hnone : Reader.ahead [] .reading = [] := by
      rw [Reader.ahead, LineFeed.deliveries, LineFeed.pieces_nil]
      rfl
    rw [hnone]
    exact hended
  · have hdeliveries : LineFeed.deliveries unread =
        LineFeed.deliveriesOf (piece.1 :: LineFeed.pieces piece.2) := by
      rw [LineFeed.deliveries, LineFeed.pieces_of_ne_nil hunread]
    simp only [Reader.ahead, hdeliveries, LineFeed.deliveriesOf]
    cases LineFeed.deliver piece.1 with
    | line text => rfl
    | invalid => rfl
    | ended => exact hended

theorem future_read (feed : Feed) : feed.read.future = feed.future := by
  obtain ⟨unread, reader, slot, awaited⟩ := feed
  cases reader with
  | reading =>
      simp only [read, future, Stream'.append_append_stream]
      rw [Reader.ahead_read]
  | holding delivery => rfl
  | finished => rfl
  | stopped => rfl

theorem future_handOver (feed : Feed) : feed.handOver.future = feed.future := by
  obtain ⟨unread, reader, slot, awaited⟩ := feed
  cases reader with
  | reading => rfl
  | holding delivery =>
      cases slot with
      | some waiting => rfl
      | none => cases delivery <;> rfl
  | finished => rfl
  | stopped => rfl

theorem future_stop (feed : Feed) : feed.stop.future = feed.future := by
  obtain ⟨unread, reader, slot, awaited⟩ := feed
  cases reader <;> rfl

theorem future_receive (feed : Feed) :
    feed.receive.1.toList ++ₛ feed.receive.2.future = feed.future := by
  obtain ⟨unread, reader, slot, awaited⟩ := feed
  cases awaited with
  | false => rfl
  | true =>
      cases slot with
      | some delivery => rfl
      | none =>
          cases reader with
          | reading => rfl
          | holding delivery => rfl
          | finished => rfl
          | stopped => exact (Stream'.const_eq Delivery.ended).symm

theorem future_move (feed : Feed) (move : Move) :
    (feed.move move).1.toList ++ₛ (feed.move move).2.future = feed.future := by
  cases move with
  | read => exact feed.future_read
  | handOver => exact feed.future_handOver
  | stop => exact feed.future_stop
  | ask => rfl
  | abandon => rfl
  | receive => exact feed.future_receive

theorem future_run (feed : Feed) (moves : List Move) :
    (feed.run moves).1 ++ₛ (feed.run moves).2.future = feed.future := by
  induction moves generalizing feed with
  | nil => rfl
  | cons first rest ih =>
      have hfirst := feed.future_move first
      have hrest := ih (feed.move first).2
      simp only [run, Stream'.append_append_stream]
      rw [hrest, hfirst]

theorem isSome_receive_of_ready (feed : Feed) :
    feed.ask.read.handOver.stop.receive.1.isSome = true := by
  obtain ⟨unread, reader, slot, awaited⟩ := feed
  cases slot with
  | some delivery => cases reader <;> rfl
  | none =>
      cases reader with
      | reading =>
          simp only [ask, read, handOver]
          cases LineFeed.deliver (LineFeed.firstPiece unread).1 <;> rfl
      | holding delivery => cases delivery <;> rfl
      | finished => rfl
      | stopped => rfl

theorem readLine_fst (feed : Feed) : feed.readLine.1 = feed.future.head := by
  have hreceive := feed.ask.read.handOver.stop.future_receive
  rw [future_stop, future_handOver, future_read] at hreceive
  obtain ⟨delivery, hdelivery⟩ :=
    Option.isSome_iff_exists.mp feed.isSome_receive_of_ready
  rw [hdelivery] at hreceive
  calc feed.readLine.1 = delivery := by simp only [readLine, hdelivery, Option.getD_some]
    _ = feed.ask.future.head := by rw [← hreceive]; rfl
    _ = feed.future.head := rfl

/-- A stream of bytes fixes one sequence of results, and whatever reader and console
do and in whatever order, what the console was handed is a first part of it: the lines
that the pieces of the stream spell, up to the first piece that is not UTF-8, then the
end of input for ever.  A read that is given the time it needs delivers the next one. -/
theorem handed_out_in_order (bytes : List UInt8) :
    ∃ pieces results, LineFeed.Cut bytes pieces ∧ LineFeed.Delivers pieces results ∧
      (∀ otherPieces otherResults, LineFeed.Cut bytes otherPieces →
        LineFeed.Delivers otherPieces otherResults → otherResults = results) ∧
      ∀ moves : List Move,
        let handed := (run { unread := bytes } moves).1
        let feed := (run { unread := bytes } moves).2
        ∃ rest : Stream' Delivery,
          handed ++ₛ rest = results ++ₛ Stream'.const .ended ∧
          feed.readLine.1 = rest.head := by
  obtain ⟨pieces, hcut, hdelivers⟩ := LineFeed.delivers_iff.mpr (rfl :
    LineFeed.deliveries bytes = LineFeed.deliveries bytes)
  refine ⟨pieces, LineFeed.deliveries bytes, hcut, hdelivers, ?_, ?_⟩
  · intro otherPieces otherResults hother hresults
    exact LineFeed.delivers_iff.mp ⟨otherPieces, hother, hresults⟩
  · intro moves handed feed
    have hstart : future { unread := bytes } =
        LineFeed.deliveries bytes ++ₛ Stream'.const .ended := rfl
    refine ⟨feed.future, ?_, feed.readLine_fst⟩
    rw [← hstart]
    exact future_run { unread := bytes } moves

end Feed

end CommandShell
