import LineEcho.Proofs.Stream.Limits
import LineEcho.Proofs.Transfer.Alongside

/-!
# What an exchange writes

The two sides of an exchange share one log.  The side that goes out writes the lines of the file and
the end record, and nothing more once it has come to the shutdown of its direction; the side that
comes in writes nothing at all.  `Exchange.Wrote` says what stands in the log at every stage, and is
kept by every turn.
-/

namespace LineEcho

/-- From the first shutdown on, nothing is written. -/
def Silenced (entries : List LogEntry) : Prop :=
  ∀ octets, .write octets ∉ entries.dropWhile (· != .shutdown)

theorem silenced_of_not_mem {entries : List LogEntry} (noShutdown : .shutdown ∉ entries) :
    Silenced entries := by
  intro octets member
  induction entries with
  | nil => cases member
  | cons entry rest ih =>
    obtain ⟨other, noneLeft⟩ : ¬.shutdown = entry ∧ .shutdown ∉ rest := by simpa using noShutdown
    have passes : (entry != .shutdown) = true := bne_iff_ne.2 (Ne.symm other)
    rw [List.dropWhile_cons, if_pos passes] at member
    exact ih noneLeft member

theorem Silenced.append {entries more : List LogEntry} (silenced : Silenced entries)
    (quiet : ∀ octets, .write octets ∉ more) : Silenced (entries ++ more) := by
  intro octets member
  rw [List.dropWhile_append] at member
  split at member
  · exact quiet octets (List.dropWhile_sublist _ |>.subset member)
  · rcases List.mem_append.1 member with earlier | later
    · exact silenced octets earlier
    · exact quiet octets later

/-- A log has grown into another one, and nothing was written meanwhile. -/
def Quiet (earlier later : List LogEntry) : Prop :=
  ∃ more, later = earlier ++ more ∧ ∀ octets, .write octets ∉ more

theorem Quiet.refl (entries : List LogEntry) : Quiet entries entries :=
  ⟨[], (List.append_nil _).symm, fun _ => List.not_mem_nil⟩

theorem Quiet.trans {first second third : List LogEntry} (quiet : Quiet first second)
    (quietToo : Quiet second third) : Quiet first third := by
  obtain ⟨between, rfl, noWrite⟩ := quiet
  obtain ⟨after, rfl, noWriteToo⟩ := quietToo
  refine ⟨between ++ after, List.append_assoc _ _ _, fun octets member => ?_⟩
  rcases List.mem_append.1 member with sooner | later
  · exact noWrite octets sooner
  · exact noWriteToo octets later

theorem writtenOctets_eq_nil {entries : List LogEntry} (quiet : ∀ octets, .write octets ∉ entries) :
    writtenOctets entries = [] := by
  refine List.flatMap_eq_nil_iff.2 (fun entry member => ?_)
  cases entry with
  | write octets => exact absurd member (quiet octets)
  | _ => rfl

namespace Exchange

variable {exchange : Exchange} {side : Side} {asked : Request} {stop : Instant}

/-- The request of a side with its answer. -/
def pollOf (exchange : Exchange) (asked : Request) : Side → Poll
  | .outward => Delivery.machine.poll exchange.outward asked
  | .inward => Draining.machine.poll exchange.inward asked

theorem log_answer (exchange : Exchange) (asked : Request) (side : Side) :
    (exchange.answer asked side).streams.log.toList =
      exchange.streams.log.toList ++ (exchange.pollOf asked side).entry.toList := by
  cases side with
  | outward => exact Delivery.machine.log_advance exchange.outward asked
  | inward => exact Draining.machine.log_advance exchange.inward asked

theorem asked_pollOf (exchange : Exchange) (asked : Request) (side : Side) :
    (exchange.pollOf asked side).asked = asked := by
  cases side <;> rfl

theorem log_lapse (stop : Instant) (side : Side) (streams : Streams) :
    (exchange.lapse stop side streams).log = streams.log := by
  unfold lapse
  split
  · rename_i asked asks
    cases asked <;> rfl
  · rfl

/-- Nothing is logged while nothing is answered. -/
theorem log_sleep (exchange : Exchange) (stop : Instant) :
    (exchange.sleep stop).streams.log = exchange.streams.log :=
  (log_lapse stop .inward _).trans (log_lapse stop .outward _)

theorem sameSource_lapse (stop : Instant) (side : Side) (streams : Streams) :
    (exchange.lapse stop side streams).SameSource streams := by
  unfold lapse Streams.SameSource
  split
  · rename_i asked asks
    cases asked with
    | fetch room => exact Script.ready_lapse _ _ _
    | _ => rfl
  · rfl

theorem sameSource_sleep (exchange : Exchange) (stop : Instant) :
    (exchange.sleep stop).streams.SameSource exchange.streams :=
  Eq.trans (sameSource_lapse stop .inward _) (sameSource_lapse stop .outward exchange.streams)

/-- The draining of the echo does not touch the file. -/
theorem sameSource_answer_inward (asks : exchange.request .inward = some asked) :
    (exchange.answer asked .inward).streams.SameSource exchange.streams := by
  have elsewhere : asked.side ≠ .outward := by
    rw [side_of_request asks]
    decide
  have untouched := Streams.only_await elsewhere exchange.draining.deadline exchange.now
    exchange.streams
  have source_eq := congrArg Streams.source untouched
  exact congrArg (fun source => Script.ready source.steps) source_eq

/-- What stands in the log of an exchange whose source yields some lines.  As long as they are sent,
the log has what sending wrote; afterwards it has all the records, and nothing after a shutdown. -/
def Wrote (total : LineSource.Yield) (entries : List LogEntry) (exchange : Exchange) : Prop :=
  match exchange.delivery with
  | .sending part => .shutdown ∉ entries ∧ ∃ past,
      Sending.Kept total ⟨exchange.now, part, exchange.streams, false⟩ past ∧
      writtenOctets entries = acceptedOctets past
  | .finishing _ _ => Silenced entries ∧ total.fault? = none ∧
      writtenOctets entries = total.records.flatten
  | .ended (.ok _) => .shutdown ∈ entries ∧ Silenced entries ∧ total.fault? = none ∧
      writtenOctets entries = total.records.flatten
  | .ended (.error _) => Silenced entries ∧ writtenOctets entries <+: total.records.flatten

variable {total : LineSource.Yield} {entries more : List LogEntry}

theorem Wrote.silenced (wrote : exchange.Wrote total entries) : Silenced entries := by
  unfold Wrote at wrote
  split at wrote
  · exact silenced_of_not_mem wrote.1
  · exact wrote.1
  · exact wrote.2.1
  · exact wrote.1

/-- What was written is always a beginning of the records. -/
theorem Wrote.isPrefix (wrote : exchange.Wrote total entries) :
    writtenOctets entries <+: total.records.flatten := by
  unfold Wrote at wrote
  split at wrote
  · obtain ⟨-, past, ⟨written, follows, -⟩, octets_eq⟩ := wrote
    exact octets_eq ▸ follows.accepted_prefix
  · exact wrote.2.2 ▸ List.prefix_refl _
  · exact wrote.2.2.2 ▸ List.prefix_refl _
  · exact wrote.2

/-- The log of a delivery stays as it should be when the other side adds to it and time passes. -/
theorem Wrote.stay {later : Exchange} (wrote : exchange.Wrote total entries)
    (delivery_eq : later.delivery = exchange.delivery)
    (same : later.streams.SameSource exchange.streams) (noWrite : ∀ octets, .write octets ∉ more)
    (noShutdown : .shutdown ∉ more) : later.Wrote total (entries ++ more) := by
  unfold Wrote at wrote ⊢
  rw [delivery_eq]
  have octets_eq : writtenOctets (entries ++ more) = writtenOctets entries := by
    rw [writtenOctets_append, writtenOctets_eq_nil noWrite, List.append_nil]
  rw [octets_eq]
  split at wrote
  · obtain ⟨before, past, kept, accepted_eq⟩ := wrote
    exact ⟨by simp [before, noShutdown], past, kept.congr same _ _, accepted_eq⟩
  · exact ⟨wrote.1.append noWrite, wrote.2⟩
  · exact ⟨List.mem_append_left _ wrote.1, wrote.2.1.append noWrite, wrote.2.2⟩
  · exact ⟨wrote.1.append noWrite, wrote.2⟩

theorem write_not_mem_pollOf (exchange : Exchange) (other : ∀ octets, asked ≠ .write octets)
    (side : Side) (octets : Bytes) : .write octets ∉ (exchange.pollOf asked side).entry.toList := by
  intro member
  refine Poll.entry_ne_write (fun offered => ?_) octets (Option.mem_toList.1 member)
  rw [asked_pollOf]
  exact other offered

theorem shutdown_not_mem_pollOf (exchange : Exchange) (other : asked ≠ .shutdown) (side : Side) :
    .shutdown ∉ (exchange.pollOf asked side).entry.toList := by
  intro member
  refine Poll.entry_ne_shutdown ?_ (Option.mem_toList.1 member)
  rw [asked_pollOf]
  exact other

/-- Sending goes on, or it is done and finishing begins or the delivery has failed. -/
theorem wrote_sendingAt {later : Exchange} {next : Progress Sending} {past : List Poll}
    (delivery_eq : later.delivery = Delivery.sendingAt next.now next.state)
    (streams_eq : later.streams = next.streams) (noShutdown : .shutdown ∉ entries)
    (kept : Sending.Kept total next past)
    (octets_eq : writtenOctets entries = acceptedOctets past) : later.Wrote total entries := by
  have isPrefix : writtenOctets entries <+: total.records.flatten := by
    obtain ⟨written, follows, -⟩ := kept
    exact octets_eq ▸ follows.accepted_prefix
  have silenced := silenced_of_not_mem noShutdown
  obtain ⟨now, part, streams, late⟩ := next
  unfold Wrote
  rw [delivery_eq, streams_eq]
  cases phase : part.phase with
  | done result =>
    cases result with
    | error error =>
      simp only [Delivery.sendingAt, Delivery.settle, phase]
      exact ⟨silenced, isPrefix⟩
    | ok counts =>
      obtain ⟨written, follows, -⟩ := kept
      simp only [Sending.Follows, phase] at follows
      obtain ⟨total_eq, accepted_eq, -⟩ := follows
      simp only [Delivery.sendingAt, Delivery.settle, phase]
      rw [octets_eq, accepted_eq, total_eq, LineSource.Yield.flatten_records]
      exact ⟨silenced, rfl, rfl⟩
  | _ =>
    simp only [Delivery.sendingAt, Delivery.settle, phase]
    exact ⟨noShutdown, past, kept.congr rfl _ _, octets_eq⟩

/-- Finishing writes nothing.  It succeeds by a shutdown. -/
theorem wrote_finishingAt {later : Exchange} {counts : SendCounts} {now : Instant}
    {part : Finishing} (delivery_eq : later.delivery = Delivery.finishingAt counts now part)
    (silenced : Silenced entries) (unfailed : total.fault? = none)
    (octets_eq : writtenOctets entries = total.records.flatten)
    (shuts : part.phase = .done (.ok ()) → .shutdown ∈ entries) : later.Wrote total entries := by
  unfold Wrote
  rw [delivery_eq]
  cases phase : part.phase with
  | done result =>
    cases result with
    | error error =>
      simp only [Delivery.finishingAt, Delivery.settle, phase]
      exact ⟨silenced, octets_eq ▸ List.prefix_refl _⟩
    | ok _ =>
      simp only [Delivery.finishingAt, Delivery.settle, phase]
      exact ⟨shuts phase, silenced, unfailed, octets_eq⟩
  | _ =>
    simp only [Delivery.finishingAt, Delivery.settle, phase]
    exact ⟨silenced, unfailed, octets_eq⟩

/-- Finishing succeeds only by a shutdown, which stands in the log. -/
theorem shutdown_mem_of_done {progress : Progress Finishing}
    (asks : Finishing.machine.request progress.state = some asked)
    (done : (Finishing.machine.advance progress asked).state.phase = .done (.ok ())) :
    .shutdown ∈ (Finishing.machine.poll progress asked).entry.toList := by
  obtain ⟨now, ⟨writeTimeout, phase⟩, streams, late⟩ := progress
  cases phase with
  | done result => cases asks
  | flushing since =>
    simp only [Machine.advance, Finishing.machine, Finishing.resume] at done
    split at done <;> simp_all
  | shuttingDown since =>
    cases asks
    let progress : Progress Finishing := ⟨now, ⟨writeTimeout, .shuttingDown since⟩, streams, late⟩
    have inTime : (Finishing.machine.poll progress .shutdown).late = false := by
      rw [← Bool.not_eq_true]
      intro missed
      obtain ⟨bound, -, answer_eq⟩ := Streams.await_late missed
      -- a late answer is a fault, with which finishing fails
      have failed : (Finishing.machine.advance progress .shutdown).state =
          progress.state.resume _ (.failed (.noProgress bound.limit)) :=
        congrArg (fun answer => progress.state.resume _ answer) answer_eq
      have done : (Finishing.machine.advance progress .shutdown).state.phase = _ := done
      rw [failed] at done
      cases done
    exact Option.mem_toList.2 (Poll.entry_shutdown rfl inTime)

theorem Sending.request_ne_shutdown {part : Sending} (asks : part.request = some asked) :
    asked ≠ .shutdown := by
  rintro rfl
  cases phase : part.phase <;> simp [Sending.request, phase] at asks

theorem Finishing.request_ne_write {part : Finishing} (asks : part.request = some asked)
    (octets : Bytes) : asked ≠ .write octets := by
  rintro rfl
  cases phase : part.phase <;> simp [Finishing.request, phase] at asks

theorem Wrote.answer_outward (wrote : exchange.Wrote total entries)
    (asks : exchange.request .outward = some asked) :
    (exchange.answer asked .outward).Wrote total
      (entries ++ (exchange.pollOf asked .outward).entry.toList) := by
  obtain ⟨now, delivery, draining, drained, streams⟩ := exchange
  cases delivery with
  | ended result => cases asks
  | sending part =>
    have asks : Sending.machine.request part = some asked := asks
    obtain ⟨noShutdown, past, kept, octets_eq⟩ := wrote
    let progress : Progress Sending := ⟨now, part, streams, false⟩
    have embeds : progress.embed Delivery.sendingAt = ⟨now, .sending part, streams, false⟩ := by
      rw [Progress.embed, Delivery.sendingAt_eq asks]
    -- sending takes the answer, and what it does then is what the delivery does
    have advanced : Delivery.machine.advance ⟨now, .sending part, streams, false⟩ asked =
        (Sending.machine.advance progress asked).embed Delivery.sendingAt := by
      rw [← embeds]
      exact Delivery.sending_partOf.advance_embed asks
    refine wrote_sendingAt (congrArg Progress.state advanced) (congrArg Progress.streams advanced)
      ?_ (kept.advance asks) ?_
    · have noneMore := shutdown_not_mem_pollOf ⟨now, .sending part, draining, drained, streams⟩
        (Sending.request_ne_shutdown asks) .outward
      simp [noShutdown, noneMore]
    · rw [writtenOctets_append, octets_eq, acceptedOctets_concat]
      exact congrArg (acceptedOctets past ++ ·) (Sending.machine.writtenOctets_entry progress asked)
  | finishing counts part =>
    have asks : Finishing.machine.request part = some asked := asks
    obtain ⟨silenced, unfailed, octets_eq⟩ := wrote
    let progress : Progress Finishing := ⟨now, part, streams, false⟩
    have embeds : progress.embed (Delivery.finishingAt counts) =
        ⟨now, .finishing counts part, streams, false⟩ := by
      rw [Progress.embed, Delivery.finishingAt_eq asks]
    have advanced : Delivery.machine.advance ⟨now, .finishing counts part, streams, false⟩ asked =
        (Finishing.machine.advance progress asked).embed (Delivery.finishingAt counts) := by
      rw [← embeds]
      exact (Delivery.finishing_partOf counts).advance_embed asks
    have quiet := write_not_mem_pollOf
      ⟨now, .finishing counts part, draining, drained, streams⟩
      (Finishing.request_ne_write asks) .outward
    let next := Finishing.machine.advance progress asked
    have settled : (Delivery.machine.advance ⟨now, .finishing counts part, streams, false⟩
        asked).state = Delivery.finishingAt counts next.now next.state :=
      congrArg Progress.state advanced
    refine wrote_finishingAt settled (silenced.append quiet) unfailed ?_
      (fun done => List.mem_append_right _ (shutdown_mem_of_done asks done))
    rw [writtenOctets_append, octets_eq, writtenOctets_eq_nil quiet, List.append_nil]

theorem Wrote.answer (wrote : exchange.Wrote total entries)
    (asks : exchange.request side = some asked) :
    (exchange.answer asked side).Wrote total
      (entries ++ (exchange.pollOf asked side).entry.toList) := by
  cases side with
  | outward => exact wrote.answer_outward asks
  | inward =>
    have about := side_of_request asks
    have noWrite : ∀ octets, asked ≠ .write octets := by
      rintro octets rfl
      cases about
    have noShutdown : asked ≠ .shutdown := by
      rintro rfl
      cases about
    exact wrote.stay rfl (sameSource_answer_inward asks)
      (write_not_mem_pollOf exchange noWrite .inward)
      (shutdown_not_mem_pollOf exchange noShutdown .inward)

/-- Every turn adds to the log what it should. -/
theorem Wrote.take {choice : Side} {turn : Turn} (wrote : exchange.Wrote total entries)
    (next : exchange.turn? choice = some turn) :
    ∃ more, (exchange.take turn).streams.log.toList = exchange.streams.log.toList ++ more ∧
      (exchange.take turn).Wrote total (entries ++ more) := by
  obtain ⟨-, ⟨side, asked, rfl, polled⟩ | ⟨stop, rfl, -⟩⟩ := turn?_eq_some next
  · exact ⟨_, log_answer exchange asked side,
      wrote.answer (request_of_asked? (poll?_eq_some.1 polled).1)⟩
  · refine ⟨[], ?_, ?_⟩
    · rw [List.append_nil]
      exact congrArg Array.toList (log_sleep exchange stop)
    · exact wrote.stay rfl (sameSource_sleep exchange stop) (by simp) (by simp)

theorem Wrote.of_reaches {begun : Exchange} (wrote : begun.Wrote total [])
    (reached : begun.Reaches exchange) :
    ∃ entries, exchange.streams.log.toList = begun.streams.log.toList ++ entries ∧
      exchange.Wrote total entries := by
  induction reached with
  | start => exact ⟨[], (List.append_nil _).symm, wrote⟩
  | turn reached choice next ih =>
    obtain ⟨entries, log_eq, wrote⟩ := ih
    obtain ⟨more, grown, wrote⟩ := wrote.take next
    exact ⟨entries ++ more, by rw [grown, log_eq, List.append_assoc], wrote⟩

/-- An exchange begins with a file of which nothing has been sent. -/
theorem wrote_start (now : Instant) (room : Nat) (endings : LineEndings)
    (writeTimeout echoTimeout : Option Duration) (receipt : Receipt) (streams : Streams) :
    (start now (.start room endings) writeTimeout echoTimeout receipt streams).Wrote
      ((LineSource.start room endings).yield now streams) [] := by
  refine wrote_sendingAt ?_ ?_ (by simp) (Sending.kept_start now _ writeTimeout streams) rfl
  · rfl
  · rfl

end Exchange

end LineEcho
