import SilverwareTx.Lib.DelimitedStream
import SilverwareTx.Word

/-!
# The viewer's serial buffer (`run_viewer` in `tools/ground_station/ground_station.py`)

`readStep` is what one `serial_port.read` does to `buffer`, and which segments go to
`decode_bridge_frame`; `readAll` is a connection's reads in order. `readAll_eq_receive` says that
this is the receiver of `DelimitedStream` with the empty pieces left out.
-/

namespace SilverwareTx.GroundStation

open DelimitedStream

/-- The size above which the synchronization buffer is cleared. -/
def serialBufferLimit : ℕ := 4096

/-- One read: the segments handed to `decode_bridge_frame`, in order, and the new `buffer`. -/
def readStep (buffer chunk : List U8) : List (List U8) × List U8 :=
  let buffer := buffer ++ chunk
  let split : List (List U8) × List U8 :=
    if (0 : U8) ∈ buffer then
      let segments := buffer.splitOn 0
      (segments.dropLast, segments.getLastD [])
    else ([], buffer)
  (split.1.filter (· ≠ []), if split.2.length > serialBufferLimit then [] else split.2)

/-- The reads of a connection, from an empty buffer: the segments handed on. -/
def readAll (buffer : List U8) : (chunks : List (List U8)) → List (List U8)
  | [] => []
  | chunk :: chunks =>
    let read := readStep buffer chunk
    read.1 ++ readAll read.2 chunks

theorem readStep_eq_feed (buffer chunk : List U8) :
    readStep buffer chunk =
      ((feed 0 serialBufferLimit buffer chunk).1.filter (· ≠ []),
        (feed 0 serialBufferLimit buffer chunk).2) := by
  unfold readStep feed
  by_cases h : (0 : U8) ∈ buffer ++ chunk
  · have htail : ((buffer ++ chunk).splitOn 0).getLastD [] = openTail 0 (buffer ++ chunk) := by
      rw [openTail, List.getLastD_eq_getLast?,
        List.getLast?_eq_some_getLast (List.splitOn_ne_nil _ _)]
      rfl
    simp only [if_pos h, htail]
    rfl
  · simp only [if_neg h, complete_of_notMem h, openTail_of_notMem h]

theorem readAll_eq_receive (buffer : List U8) (chunks : List (List U8)) :
    readAll buffer chunks = (receive 0 serialBufferLimit buffer chunks).1.filter (· ≠ []) := by
  induction chunks generalizing buffer with
  | nil => rfl
  | cons chunk chunks ih =>
    rw [readAll, receive, readStep_eq_feed, List.filter_append, ← ih]

theorem filter_eq_flatten (emitted : List (List U8)) :
    emitted.filter (· ≠ []) = (emitted.map fun e => if e ≠ [] then [e] else []).flatten := by
  induction emitted with
  | nil => rfl
  | cons e emitted ih =>
    rw [List.map_cons, List.flatten_cons, ← ih]
    by_cases h : e = []
    · simp [h]
    · simp [h]

/-- **What the viewer hands to the decoder**, for every way to cut the stream into reads: for each
delimited piece of the stream nothing or some end of it, and the piece itself when it is not empty
and within the limit. -/
theorem readAll_pieces {pieces chunks : List (List U8)} (hpieces : ∀ p ∈ pieces, (0 : U8) ∉ p)
    (hstream : chunks.flatten = pieces.flatMap (· ++ [0])) :
    ∃ fragments, List.Forall₂ (fun p fragment =>
        (fragment = [] ∨ ∃ t, t <:+ p ∧ fragment = [t]) ∧
          (p ≠ [] → p.length ≤ serialBufferLimit → fragment = [p])) pieces fragments ∧
      readAll [] chunks = fragments.flatten := by
  have hkept := receive_pieces serialBufferLimit hpieces hstream
  rw [readAll_eq_receive]
  generalize (receive 0 serialBufferLimit [] chunks).1 = emitted at hkept
  refine ⟨emitted.map fun e => if e ≠ [] then [e] else [], ?_, ?_⟩
  · rw [List.forall₂_map_right_iff]
    refine hkept.imp fun p e he => ⟨?_, fun hne hlen => ?_⟩
    · by_cases h : e ≠ []
      · exact .inr ⟨e, he.1, if_pos h⟩
      · exact .inl (if_neg h)
    · obtain rfl := he.2 hlen
      exact if_pos hne
  · exact filter_eq_flatten emitted

end SilverwareTx.GroundStation
