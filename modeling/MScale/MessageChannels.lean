import MScale.MessageStream
import MScale.SubscriberPacing
import MScale.TestSessions

/-!
# Channels from the publisher to its subscribers

Every message that the publisher hands over goes to all subscribers.  On the way
to one of them it may be lost, it may wait in the network or in the receive
loop, or it has been counted.  So what a subscriber has counted since a reset is
what was sent since then, less what was lost, up to the messages that were on
their way at the reset and those that still are.
-/

namespace MScale

namespace MessageChannels

open SubscriberLoop (Point SubCommand)
open HDZmqpRepSrv (PubState Usage)
open PublisherLoop (SendOutcome)

/-! ### Messages that are handed over -/

/-- How many messages the publisher has handed over. -/
def published (pub : PubState) : ℕ :=
  pub.trace.count .published

/-- The text that the publisher hands over in its next statement. -/
def sentText (outcome : SendOutcome) (pub : PubState) : List String :=
  if pub.point = .publishing ∧ pub.loop.point = .send ∧
      outcome = .handedOver then
    [MessageStream.messageText pub.loop.msgCnt]
  else []

/-! ### Channels -/

/-- A subscriber, the messages on their way to it with the oldest one first, and
how many messages were lost on the way. -/
structure Channel where
  wire : List String
  lost : ℕ
  sub : SubscriberLoop.LoopState

/-- What happens on a channel by itself: a message is lost, the oldest one
arrives, time passes for the subscriber, or it executes a statement.  Messages
for a subscriber that is about to connect are lost as well. -/
inductive ChannelMove
  | lose (position : ℕ)
  | deliver
  | tick (time : ℚ≥0)
  | execute
  deriving DecidableEq

namespace Channel

/-- The publisher hands over messages. -/
def publish (texts : List String) (channel : Channel) : Channel :=
  { channel with wire := channel.wire ++ texts }

/-- The daemon of the subscriber handles a command. -/
def command (command : SubCommand) (channel : Channel) : Channel :=
  { channel with sub := SubscriberLoop.handleCommand command channel.sub }

/-- One move. -/
def step (channel : Channel) : ChannelMove → Channel
  | .lose position =>
      if position < channel.wire.length then
        { channel with
          wire := channel.wire.eraseIdx position
          lost := channel.lost + 1 }
      else channel
  | .deliver =>
      match channel.wire with
      | [] => channel
      | string :: wire =>
          if channel.sub.point = .recv then
            { channel with
              wire := wire
              sub := SubscriberLoop.step channel.sub (.arrive string) }
          else channel
  | .tick time =>
      { channel with sub := SubscriberLoop.step channel.sub (.tick time) }
  | .execute =>
      { channel with sub := SubscriberLoop.step channel.sub .execute }

end Channel

/-- The messages that the receive loop has taken and not counted yet. -/
def uncounted : Point → ℕ
  | .noteFirst _ | .count _ => 1
  | _ => 0

namespace Channel

/-- The messages that are neither lost nor counted. -/
def underway (channel : Channel) : ℕ :=
  channel.wire.length + uncounted channel.sub.point

/-- The messages that were counted since the reset, those that were lost, and
those on their way. -/
def total (channel : Channel) : ℕ :=
  channel.sub.hd.msgCnt + channel.lost + channel.underway

variable (channel : Channel)

theorem total_publish (texts : List String) :
    (channel.publish texts).total = channel.total + texts.length := by
  simp [publish, total, underway]
  omega

end Channel

/-- A statement counts the message that the loop has taken, or none. -/
theorem executeStatement_counted (loop : SubscriberLoop.LoopState) :
    (SubscriberLoop.executeStatement loop).hd.msgCnt +
        uncounted (SubscriberLoop.executeStatement loop).point =
      loop.hd.msgCnt + uncounted loop.point := by
  unfold SubscriberLoop.executeStatement
  cases atPoint : loop.point with
  | noteFirst string =>
      dsimp only
      split <;> rfl
  | checkIndex string =>
      dsimp only
      split
      · split <;> rfl
      · rfl
  | limitRate | sleeping | reconnect =>
      dsimp only
      split <;> simp [uncounted, atPoint]
  | connect | recv | count | noteLast | close | raised =>
      simp [uncounted, atPoint]

namespace Channel

variable (channel : Channel)

/-- Nothing that happens on a channel changes its total. -/
theorem total_step (move : ChannelMove) :
    (channel.step move).total = channel.total := by
  cases move with
  | lose position =>
      simp only [step]
      split
      · next within =>
          simp only [total, underway, List.length_eraseIdx_of_lt within]
          omega
      · rfl
  | deliver =>
      simp only [step]
      split
      · rfl
      · next string wire onWire =>
          split
          · next atRecv =>
              simp [total, underway, uncounted, onWire, atRecv,
                SubscriberLoop.step]
          · rfl
  | tick time => rfl
  | execute =>
      have counted := executeStatement_counted channel.sub
      simp only [total, underway, step, SubscriberLoop.step]
      omega

/-- Only a reset changes the total. -/
theorem total_command {command : SubCommand}
    (noReset : ∀ usage, command ≠ .resetstats usage) :
    (channel.command command).total = channel.total := by
  cases command with
  | resetstats usage => exact (noReset usage rfl).elim
  | getstats usage =>
      have same := SubscriberLoop.getStats_msgCnt usage channel.sub.hd
      change (channel.sub.hd.getStats usage).2.msgCnt + channel.lost +
        channel.underway = _
      rw [same]
      rfl
  | updateconfig recvRate reconnectRate => rfl

/-- After a reset nothing is counted. -/
theorem total_resetstats (usage : Usage) :
    (channel.command (.resetstats usage)).total =
      channel.lost + channel.underway :=
  congrArg (· + channel.underway) (Nat.zero_add channel.lost)

end Channel

/-! ### What the publisher does -/

theorem sentText_of_not_publishing {pub : PubState} (outcome : SendOutcome)
    (notPublishing : pub.point ≠ .publishing) : sentText outcome pub = [] :=
  if_neg fun publishes => notPublishing publishes.1

theorem published_publish (outcome : SendOutcome) {pub : PubState}
    (publishing : pub.point = .publishing) :
    published (HDZmqpRepSrv.publish outcome pub) =
      published pub + (sentText outcome pub).length := by
  unfold HDZmqpRepSrv.publish
  cases atPoint : pub.loop.point with
  | send =>
      by_cases handedOver : outcome = .handedOver
      · simp [published, sentText, publishing, atPoint, handedOver]
      · simp [published, sentText, handedOver]
  | computeDelay | checkDuration =>
      dsimp only
      split <;> simp [published, sentText, atPoint]
  | count | sleep | sleeping | finished | raised =>
      simp [published, sentText, atPoint]

/-- A statement of the publisher hands over one message or none. -/
theorem published_execute (outcome : SendOutcome) (usage : Usage)
    (pub : PubState) :
    published (HDZmqpRepSrv.execute outcome usage pub) =
      published pub + (sentText outcome pub).length := by
  by_cases publishing : pub.point = .publishing
  · rw [HDZmqpRepSrv.execute, publishing]
    exact published_publish outcome publishing
  · rw [sentText_of_not_publishing outcome publishing]
    unfold HDZmqpRepSrv.execute
    cases atPoint : pub.point with
    | publishing => exact (publishing atPoint).elim
    | checkStart | sleeping | writeRate =>
        dsimp only
        split <;> rfl
    | begin | writeTimeEnd | writeMsgCnt | writeNetEnd | writeCpuEnd
    | writeMemEnd | setStopping | resetStart | raised =>
        simp [published, HDZmqpRepSrv.PubState.writeStat]

/-- A command hands over nothing. -/
theorem published_answer (command : HDZmqpRepSrv.Command) (pub : PubState) :
    published (HDZmqpRepSrv.answer command pub) = published pub := by
  cases command with
  | teststart usage =>
      rw [HDZmqpRepSrv.answer_teststart]
      simp [published]
  | getstats | teststatus | updateconfig => rfl

/-- The texts that the publisher hands over in a move. -/
def sentTexts (pub : PubState) : HDZmqpRepSrv.SessionMove → List String
  | .execute outcome _ => sentText outcome pub
  | _ => []

theorem published_step (pub : PubState) (move : HDZmqpRepSrv.SessionMove) :
    published (HDZmqpRepSrv.step pub move.move) =
      published pub + (sentTexts pub move).length := by
  cases move with
  | tick time => rfl
  | execute outcome usage => exact published_execute outcome usage pub
  | updateConfig | startTest | pollStatus | getStats =>
      exact published_answer _ pub

end MessageChannels

end MScale
