import Omairc.Session.LineChange

/-!
# The subcommand of a CAP line

A CAP line goes to the handler of the first subcommand, in a fixed order, that one of
its parameters spells. What a line does to the state is read off the subcommand.
-/

namespace Omairc.Session

open Omairc.Text Omairc.Irc

/-- The subcommands of CAP that a session acts on. -/
inductive CapSubcommand
  | ls
  | new
  | del
  | ack
  | nak
  deriving DecidableEq

namespace CapSubcommand

/-- The keyword of a subcommand. -/
def keyword : CapSubcommand → String
  | .ls => "LS"
  | .new => "NEW"
  | .del => "DEL"
  | .ack => "ACK"
  | .nak => "NAK"

/-- The order the subcommands are looked for in. -/
def order : List CapSubcommand := [.ls, .new, .del, .ack, .nak]

end CapSubcommand

/-- The first subcommand that a parameter of a CAP line spells, with its position. -/
def capSubcommand (message : IrcMessage) : Option (CapSubcommand × Nat) :=
  CapSubcommand.order.findSome? fun subcommand =>
    (message.paramIndex subcommand.keyword).map fun index => (subcommand, index)

namespace Core

variable [Platform] (core : Core)

/-- The handler of a subcommand. -/
def handleCapSubcommand (message : IrcMessage) : CapSubcommand × Nat → Core
  | (.ls, index) => core.handleCapLs message index
  | (.new, index) => core.handleCapNew message index
  | (.del, index) => core.handleCapDel message index
  | (.ack, index) => core.handleCapAck message index
  | (.nak, index) => core.handleCapNak message index

omit [Platform] in
/-- The subcommand a session acts on: before a CAP LS, only that one. -/
def capRoute (message : IrcMessage) : Option (CapSubcommand × Nat) :=
  (capSubcommand message).filter fun found => found.1 = .ls || core.capabilityListSeen

/-- A CAP line runs the handler of the subcommand that the session acts on. -/
theorem handleCap_eq (message : IrcMessage) :
    core.handleCap message =
      ((core.capRoute message).map (core.handleCapSubcommand message)).getD core := by
  unfold handleCap capRoute capSubcommand
  simp only [CapSubcommand.order, CapSubcommand.keyword, List.findSome?_cons, List.findSome?_nil]
  generalize message.paramIndex "LS" = ls
  generalize message.paramIndex "NEW" = new
  generalize message.paramIndex "DEL" = del
  generalize message.paramIndex "ACK" = ack
  generalize message.paramIndex "NAK" = nak
  generalize core.capabilityListSeen = seen
  cases ls
  all_goals cases seen
  all_goals cases new
  all_goals cases del
  all_goals cases ack
  all_goals cases nak
  all_goals simp [handleCapSubcommand, Option.filter]

omit [Platform] in
/-- The advertisement a CAP line acts on, by its subcommand. -/
theorem capAdvertisement_eq (message : IrcMessage) :
    core.capAdvertisement message =
      match core.capRoute message with
      | some (.ls, index) =>
          if isContinued message index then none
          else (parseStsAdvertisement (capabilityTokens message index)).or core.pendingSts
      | some (.new, index) => parseStsAdvertisement (capabilityTokens message index)
      | _ => none := by
  unfold capAdvertisement capRoute capSubcommand
  simp only [CapSubcommand.order, CapSubcommand.keyword, List.findSome?_cons, List.findSome?_nil]
  generalize message.paramIndex "LS" = ls
  generalize message.paramIndex "NEW" = new
  generalize message.paramIndex "DEL" = del
  generalize message.paramIndex "ACK" = ack
  generalize message.paramIndex "NAK" = nak
  generalize core.capabilityListSeen = seen
  cases ls
  all_goals cases seen
  all_goals cases new
  all_goals cases del
  all_goals cases ack
  all_goals cases nak
  all_goals simp [Option.filter]

end Core

end Omairc.Session
