import FitProfile.Fingerprint.XxHash64
import FitProfile.Source.Profile
/-!
# FitProfile.Fingerprint.Stream -- fingerprints of profiles

A profile is framed as one text: each part follows a marker line of its own, and each
message number without a message stands on a line. The fingerprint is a digest of the
bytes of that text: of 64 bits, by whatever function is given, and by xxHash64 where none
is.
-/

namespace FitProfile

namespace Profile

/-- The parts of a profile, each behind its marker. -/
def stream (p : Profile) : String :=
  "# TYPES\n" ++ p.types ++ "# MESSAGES\n" ++ p.messages ++ "# PROFILE\n" ++ p.profile ++
    "# STRINGER TYPE INPUT\n" ++ p.stringerInput ++ "\n# MESSAGE NUMS WITHOUT MESSAGE\n" ++
    String.join (p.unmatched.map fun name => name ++ "\n")

/-- The digest of the framed profile. -/
def fingerprint (p : Profile) (digest : ByteArray → UInt64 := XxHash64.hash) : UInt64 :=
  digest p.stream.toUTF8

end Profile

end FitProfile
