import XousAppSignal.Net.WsPump

/-! The reader as a stream: the messages read, up to the one that ends the stream, become the
items of the incoming channel.
-/

namespace XousAppSignal.Net

/-- A turn with a sound mutex and the receiver alive. -/
def undisturbed (result : Except WsError Message) : ReadTurn := { result }

/-- The item a data or control message is forwarded as. -/
def image : Except WsError Message → Option Item
  | .ok (.binary bytes) => some (.ok (.binary bytes))
  | .ok (.text text) => some (.ok (.text text))
  | .ok (.ping bytes) => some (.ok (.ping bytes))
  | .ok (.pong bytes) => some (.ok (.pong bytes))
  | _ => none

/-- The results that end a stream: a close message, and every error but a timeout. -/
def endsStream : Except WsError Message → Bool
  | .ok (.close _) => true
  | .ok _ => false
  | .error (.io .wouldBlock _) => false
  | .error (.io .timedOut _) => false
  | .error _ => true

/-- The last item of a stream: the close frame, with code 1005 when it carries none, or the
error. A connection that is closed already ends it silently.
-/
def lastItem : Except WsError Message → Option Item
  | .ok (.close (some frame)) => some (.ok (.close frame.code frame.reason))
  | .ok (.close none) => some (.ok (.close 1005 ""))
  | .error (.io .other display) => some (readFailed display)
  | .error (.other display) => some (readFailed display)
  | _ => none

/-- The result is an error that is no timeout and does not say that the connection is closed. -/
def isFailure : Except WsError Message → Bool
  | .error (.io .other _) => true
  | .error (.other _) => true
  | _ => false

/-- The stream of the results: the images up to the first result that ends it, its last item,
and no further read.
-/
def streamed (results : List (Except WsError Message)) : ReaderRun :=
  let before := results.takeWhile (fun result => !endsStream result)
  match results.dropWhile (fun result => !endsStream result) with
  | [] => ⟨before.filterMap image, before.length, false⟩
  | last :: _ => ⟨before.filterMap image ++ (lastItem last).toList, before.length + 1, true⟩

theorem ReaderRun.after_inj {items : List Item} {left right : ReaderRun}
    : left.after items = right.after items ↔ left = right := by
  constructor
  · intro same
    cases left
    cases right
    simpa [after] using same
  · rintro rfl
    rfl

/-- A result that does not end the stream is one read more. -/
theorem streamed_cons {result : Except WsError Message} (goesOn : endsStream result = false)
    (rest : List (Except WsError Message))
    : streamed (result :: rest) = (streamed rest).after (image result).toList := by
  unfold streamed
  simp only [goesOn, List.takeWhile_cons, List.dropWhile_cons, Bool.not_false, if_true,
    List.filterMap_cons]
  split
  all_goals cases image result <;> simp [ReaderRun.after]

theorem streamed_last {result : Except WsError Message} (ends : endsStream result = true)
    (rest : List (Except WsError Message))
    : streamed (result :: rest) = ⟨(lastItem result).toList, 1, true⟩ := by
  simp [streamed, ends]

theorem readerLoop_goesOn {result : Except WsError Message} (goesOn : endsStream result = false)
    (rest : List ReadTurn)
    : readerLoop (undisturbed result :: rest)
      = (readerLoop rest).after (image result).toList := by
  cases result with
  | ok message =>
      cases message with
      | close frame => cases goesOn
      | _ => rfl
  | error error =>
      cases error with
      | io kind display => cases kind <;> first | rfl | cases goesOn
      | _ => cases goesOn

/-- A close message and a closed connection stop the loop. -/
theorem readerLoop_closes {result : Except WsError Message} (ends : endsStream result = true)
    (closes : isFailure result = false) (rest : List ReadTurn)
    : readerLoop (undisturbed result :: rest) = ⟨(lastItem result).toList, 1, true⟩ := by
  cases result with
  | ok message =>
      cases message with
      | close frame => cases frame <;> rfl
      | _ => cases ends
  | error error =>
      cases error with
      | io kind display =>
          cases kind with
          | wouldBlock => cases ends
          | timedOut => cases ends
          | other => cases closes
      | other display => cases closes
      | _ => rfl

/-- After any other error the loop forwards the error and reads again. -/
theorem readerLoop_failure {result : Except WsError Message} (fails : isFailure result = true)
    (rest : List ReadTurn)
    : readerLoop (undisturbed result :: rest)
      = (readerLoop rest).after (lastItem result).toList := by
  cases result with
  | ok message => cases fails
  | error error =>
      cases error with
      | io kind display => cases kind <;> rfl
      | other display => rfl
      | _ => cases fails

/-- A loop that has ended has read. -/
theorem readerLoop_ended {results : List (Except WsError Message)}
    (ended : (readerLoop (results.map undisturbed)).ended = true)
    : 0 < (readerLoop (results.map undisturbed)).reads := by
  cases results with
  | nil => cases ended
  | cons result rest =>
      rw [List.map_cons]
      cases ends : endsStream result with
      | false =>
          rw [readerLoop_goesOn ends]
          exact Nat.succ_pos _
      | true =>
          cases fails : isFailure result with
          | false =>
              rw [readerLoop_closes ends fails]
              exact Nat.one_pos
          | true =>
              rw [readerLoop_failure fails]
              exact Nat.succ_pos _

/-- With the receiver alive the loop forwards the stream and stops exactly if the first result
that ends the stream, if there is one, is no failure. The proof is by induction on the results.
-/
theorem readerLoop_streamed_iff (results : List (Except WsError Message))
    : readerLoop (results.map undisturbed) = streamed results
      ↔ ∀ last ∈ results.find? endsStream, isFailure last = false := by
  induction results with
  | nil => simp [readerLoop, streamed]
  | cons result rest ih =>
      rw [List.map_cons]
      cases ends : endsStream result with
      | false =>
          rw [readerLoop_goesOn ends, streamed_cons ends, ReaderRun.after_inj, ih,
            List.find?_cons_of_neg (by simp [ends])]
      | true =>
          rw [List.find?_cons_of_pos ends, streamed_last ends]
          cases fails : isFailure result with
          | false => simp [readerLoop_closes ends fails, fails]
          | true =>
              -- The loop would have to stop after one read, but it reads again.
              rw [readerLoop_failure fails]
              refine iff_of_false (fun same => ?_) (fun closes => ?_)
              · have reads := congrArg ReaderRun.reads same
                have ended := readerLoop_ended (congrArg ReaderRun.ended same)
                simp only [ReaderRun.after] at reads
                omega
              · rw [closes result rfl] at fails
                cases fails

/-- A reset connection: the error is forwarded, and the loop reads on and forwards what comes
next.
-/
theorem reader_reads_after_error
    : readerLoop
        ([.error (.io .other "connection reset"), .ok (.binary [1])].map undisturbed)
      = ⟨[readFailed "connection reset", .ok (.binary [1])], 2, false⟩
      ∧ streamed [.error (.io .other "connection reset"), .ok (.binary [1])]
        = ⟨[readFailed "connection reset"], 1, true⟩ :=
  ⟨rfl, rfl⟩

end XousAppSignal.Net
