import AsynGyanis.Http.HttpParserCuts

/-!
# The requests of a connection

A connection hands the bytes it receives to its parser, takes the requests
that are complete and resets the parser for the next. What it makes of a
stream depends on how the stream is cut for one kind of stream only: one with
an overlong line that ends in a bare LF. Such a stream is refused in either
way, but for another reason, and so with another answer: `session_framing`.
-/

namespace AsynGyanis.Http

open Library

namespace HttpParser

variable {limits : HttpParserLimits}

variable (limits)

theorem proceeds_fresh : Proceeds limits { limits := limits } :=
  ⟨rfl, nofun, nofun, fun _ => rfl⟩

variable {limits}

theorem reset_eq {p : HttpParser} (hp : p.Proceeds limits) : p.reset = { limits := limits } := by
  rw [← hp.limits_eq]
  rfl

theorem proceeds_reset {p : HttpParser} (hp : p.Proceeds limits) (_ : reader.finished p) :
    p.reset.Proceeds limits ∧ reader.stopped p.reset = false := by
  rw [reset_eq hp]
  exact ⟨proceeds_fresh limits, rfl⟩

variable (limits)

theorem session_resumable : session.Resumable (Reader.SerialInv reader (Proceeds limits))
      (Reader.SerialFair reader LineIsFair) :=
  (reader_resumable limits).serial fun _ => proceeds_reset

theorem session_sharp : session.Sharp (fun t => (Proceeds limits t.2 ∧ t.2.pendingLine = []) ∧
        Reader.SerialInv reader (Proceeds limits) t) (Reader.SerialFair reader LineIsFair) :=
  Reader.Sharp.serial (reader_resumable limits) (fun _ => proceeds_reset)
    (reader_sharp limits) fun _ hp hfinished =>
      ⟨(proceeds_reset hp hfinished).1, rfl⟩

theorem serialInv_fresh (requests : List HttpRequest) :
    Reader.SerialInv reader (Proceeds limits) (requests, { limits := limits }) :=
  ⟨proceeds_fresh limits, rfl⟩

/-- A new parser takes this as a whole message, and all of it. -/
def Accepts (limits : HttpParserLimits) (message : Bytes) (request : HttpRequest) : Prop :=
  ∃ p, parse { limits := limits } message = (p, []) ∧
    p.stage = .complete ∧ p.currentRequest = request

variable {limits}

/-- Messages that are accepted one by one are read one behind the other, and
what comes behind them is read by a new parser. -/
theorem read_messages {messages : List (Bytes × HttpRequest)}
    (h : ∀ message ∈ messages, Accepts limits message.1 message.2) (rest : Bytes) :
    session.read ([], { limits := limits }) ((messages.map Prod.fst).flatten ++ rest) =
      session.read (messages.map Prod.snd, { limits := limits }) rest := by
  have hread : session.read ([], { limits := limits }) ((messages.map Prod.fst).flatten ++ rest) =
      session.read ([] ++ (messages.map Prod.fst).map fun message =>
        (reader.read { limits := limits } message).1.currentRequest,
        { limits := limits }) rest :=
    Reader.serial_read_flatten (reader_resumable limits)
    (fun _ => proceeds_reset) (reader_sharp limits) (proceeds_fresh limits)
    ⟨proceeds_fresh limits, rfl⟩ rfl (messages.map Prod.fst)
    (fun item hitem => by
      obtain ⟨message, hmessage, rfl⟩ := List.mem_map.mp hitem
      obtain ⟨p, hparse, hstage, -⟩ := h message hmessage
      have hp : p.Proceeds limits := by
        have := (Reader.read_spec (reader_resumable limits) (proceeds_fresh limits) message.1).1
        rwa [show reader.read _ message.1 = (p, []) from hparse] at this
      have hread : reader.read { limits := limits } message.1 = (p, []) := hparse
      rw [hread]
      refine ⟨rfl, ?_, reset_eq hp⟩
      rw [Reader.finished_iff]
      show (decide (p.stage = .complete) || decide (p.stage = .failed)) ∧
        (if p.stage = .failed then some p.errorKind else none) = none
      rw [hstage]
      exact ⟨rfl, rfl⟩)
    rest []
  rw [List.map_map, List.nil_append] at hread
  refine hread.trans ?_
  congr 2
  refine List.map_congr_left fun message hmessage => ?_
  obtain ⟨p, hparse, -, hrequest⟩ := h message hmessage
  show (parse { limits := limits } message.1).1.currentRequest = message.2
  rw [hparse]
  exact hrequest

theorem feed_messages {messages : List (Bytes × HttpRequest)}
    (h : ∀ message ∈ messages, Accepts limits message.1 message.2) {pieces : List Bytes}
    (hpieces : pieces.flatten = (messages.map Prod.fst).flatten) :
    session.feed ([], { limits := limits }) pieces =
      (messages.map Prod.snd, { limits := limits }) := by
  have hread := read_messages h []
  rw [List.append_nil, Reader.read_stopped (.inr rfl), ← hpieces] at hread
  have hstart : Reader.SerialInv reader (Proceeds limits)
      (([] : List HttpRequest), { limits := limits }) :=
    serialInv_fresh limits []
  have hfair : session.Fair (Reader.SerialFair reader LineIsFair)
      ([], { limits := limits }) pieces.flatten :=
    (session_sharp limits).fair_of_read (session_resumable limits)
      ⟨⟨proceeds_fresh limits, rfl⟩, hstart⟩ hstart (by rw [hread]; rfl)
  rcases Reader.feed_flatten (session_resumable limits) hstart pieces hfair with heq | ⟨e, he, -⟩
  · rw [← heq, hread]
  · rw [hread] at he
    cases he

/-- A stream is read the same however it is cut, if and only if none of the
lines it is read by is overlong with a bare LF at its end. Requests that are
each accepted for themselves are returned in their order, and behind them the
next one begins. -/
theorem session_framing (limits : HttpParserLimits) :
    (∀ bytes : Bytes,
      (∀ pieces : List Bytes, pieces.flatten = bytes →
        session.Same (session.read ([], { limits := limits }) bytes).1
          (session.feed ([], { limits := limits }) pieces)) ↔
      session.Fair (Reader.SerialFair reader LineIsFair) ([], { limits := limits }) bytes) ∧
    (∀ messages : List (Bytes × HttpRequest),
      (∀ message ∈ messages, Accepts limits message.1 message.2) →
      (∀ rest : Bytes, session.read ([], { limits := limits })
            ((messages.map Prod.fst).flatten ++ rest) =
          session.read (messages.map Prod.snd, { limits := limits }) rest) ∧
      ∀ pieces : List Bytes, pieces.flatten = (messages.map Prod.fst).flatten →
        session.feed ([], { limits := limits }) pieces =
          (messages.map Prod.snd, { limits := limits })) := by
  have hstart : Reader.SerialInv reader (Proceeds limits)
      (([] : List HttpRequest), { limits := limits }) :=
    serialInv_fresh limits []
  refine ⟨fun bytes => ?_, fun messages h => ⟨read_messages h, ?_⟩⟩
  · exact (session_sharp limits).cuts_iff (session_resumable limits)
      ⟨⟨proceeds_fresh limits, rfl⟩, hstart⟩ hstart bytes
  · intro pieces hpieces
    exact feed_messages h hpieces

/-- Fifty bytes and a bare LF, with a limit of 49 bytes for a line: malformed
in one piece, too long in two. -/
theorem session_cut_at_bare_lineFeed :
    ∃ (limits : HttpParserLimits) (pieces : List Bytes), ¬session.Same
        (session.read ([], { limits := limits }) pieces.flatten).1
        (session.feed ([], { limits := limits }) pieces) := by
  refine ⟨{ maximumUriLength := 1 }, [List.replicate 50 0x61, [lineFeed]], fun hsame => ?_⟩
  have hrefusal := hsame.refusal_eq
  revert hrefusal
  decide +kernel

end HttpParser

end AsynGyanis.Http
