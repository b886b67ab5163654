import Omairc.Irc.Capability
import Omairc.Platform

/-!
# Strict transport security policies

The `sts` capability value and the policy cache the sessions share. A session reads
the cache only by looking up its host, and its writes are the operations of
`StsOperation`.
-/

namespace Omairc.Session

open Omairc.Text Omairc.Irc

/-- One `sts` capability value. -/
structure StsAdvertisement where
  port : Option UInt16 := none
  durationSeconds : Option Int := none

/-- One cached policy. -/
structure StsCached where
  port : UInt16
  durationSeconds : Int
  expiryEpochSeconds : Int
  deriving DecidableEq

/-- What a session asks of the policy cache. -/
inductive StsOperation
  | store (host : String) (port : UInt16) (durationSeconds : Int) (now : Instant)
  | refresh (host : String) (durationSeconds : Int) (now : Instant)
  | clear (host : String)
  deriving DecidableEq

/-- A port in 1..=65535, written in digits only. -/
def parsePort (raw : String) : Option UInt16 :=
  if !raw.toList.all Char.isDigit then none
  else ((parseUnsigned (2 ^ 16) raw).filter fun port => decide (1 ≤ port)).map UInt16.ofNat

/-- A duration in seconds: a non-negative decimal that fits 64 bits. -/
def parseDuration (raw : String) : Option Int :=
  (parseInt64 raw).filter fun seconds => decide (0 ≤ seconds)

/-- Read one `key=value` part. The first valid value of a key counts. -/
def parseStsPart (advertisement : StsAdvertisement) (part : String) : StsAdvertisement :=
  match asciiLowercase (tokenKey part) with
  | "port" =>
      if advertisement.port.isNone then { advertisement with port := parsePort (tokenValue part) }
      else advertisement
  | "duration" =>
      if advertisement.durationSeconds.isNone then
        { advertisement with durationSeconds := parseDuration (tokenValue part) }
      else advertisement
  | _ => advertisement

/-- Read the value of an `sts` token. -/
def parseStsValue (value : String) : StsAdvertisement :=
  ((splitText ',' value).filter fun part => part ≠ "").foldl parseStsPart {}

/-- The last `sts` token of a CAP line, read. -/
def parseStsAdvertisement (tokens : List String) : Option StsAdvertisement :=
  tokens.foldl (fun advertisement token =>
    if eqIgnoreAsciiCase (tokenKey token) "sts" then some (parseStsValue (tokenValue token))
    else advertisement) none

end Omairc.Session
