import Courier.Http.ResponseReader

/-!
# How reading a response can end

Whatever a peer sends, reading it comes to a response, or fails because of the exchange or the body,
and never for another reason.
-/

namespace Courier.Http

/-- What reading a response can come to. -/
inductive ReadingResult : Except ClientError Reply → Prop where
  | reply (reply : Reply) : ReadingResult (.ok reply)
  | exchange (failure : ExchangeFailure) : ReadingResult (.error (.exchange failure))
  | body (failure : BodyFailure) : ReadingResult (.error (.body failure))

namespace ResponseReading

/-- If a reading has ended, it has come to something that reading can come to. -/
def Proper (reading : ResponseReading) : Prop :=
  ∀ result, reading = .done result → ReadingResult result

variable {terms : ReadingTerms} {result : Except ClientError Reply}

theorem proper_done (possible : ReadingResult result) : (done result).Proper := by
  rintro _ ⟨⟩
  exact possible

theorem proper_head (arrived : Bytes) : (head arrived).Proper := by
  rintro _ ⟨⟩

theorem proper_body (reading : BodyReading) : (body reading).Proper := by
  rintro _ ⟨⟩

theorem afterBody_proper (reading : BodyReading) (state : BodyState) :
    (afterBody terms reading state).Proper := by
  rw [afterBody.eq_def]
  split
  · exact proper_done (.body .tooLong)
  · split
    · exact proper_body _
    · exact proper_done (.reply _)
    · exact proper_done (.body .unreadable)

theorem startBody_proper (head : ResponseHead) (rest : Bytes) :
    (startBody terms head rest).Proper := by
  rw [startBody]
  split
  · exact proper_done (.exchange .malformedHead)
  · split
    · exact afterBody_proper _ _
    · exact proper_done (.reply _)

theorem readHead_proper (fuel : Nat) (arrived : Bytes) :
    (readHead terms fuel arrived).Proper := by
  induction fuel generalizing arrived with
  | zero => exact proper_head arrived
  | succ fuel induction =>
      rw [readHead]
      split
      · exact proper_done (.exchange .malformedHead)
      · split
        · exact proper_done (.exchange .malformedHead)
        · exact proper_head arrived
      · rename_i found rest _
        split
        · exact proper_done (.exchange .malformedHead)
        · split
          · exact induction rest
          · exact startBody_proper found rest

theorem Proper.feed {reading : ResponseReading} (proper : reading.Proper) (bytes : Bytes) :
    (feed terms reading bytes).Proper := by
  cases reading with
  | head arrived => exact readHead_proper _ _
  | body reading => exact afterBody_proper _ _
  | done result => exact proper

theorem Proper.feedAll {reading : ResponseReading} (proper : reading.Proper)
    (parts : List Bytes) : (parts.foldl (ResponseReading.feed terms) reading).Proper := by
  induction parts generalizing reading with
  | nil => exact proper
  | cons part parts induction => exact induction (proper.feed part)

theorem Proper.close {reading : ResponseReading} (proper : reading.Proper) :
    (close terms reading).Proper := by
  cases reading with
  | head arrived => exact proper_done (.exchange .incompleteHead)
  | body reading => exact afterBody_proper _ _
  | done result => exact proper

end ResponseReading

end Courier.Http
