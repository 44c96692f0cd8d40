import WorkloadIdentity.Text.Marks

/-!
The direction of characters in names. Once a name has a character that is written from right to
left, or a number of the kind that goes with such characters, each of its labels has to be of one
direction: it begins with a letter, ends with a letter or a digit apart from marks, and has nothing
of the other direction inside. Listed are the characters that names of hosts may have (version 17
of the Unicode standard), and a run may pass over code points that no name has.
-/

namespace WorkloadIdentity.Url

open WorkloadIdentity.Text (Ranges)

/-- How a character takes part in the direction of a text. -/
inductive Direction where
  | left
  | right
  /-- Letters of Arabic and of the scripts akin to it, from right to left as well. -/
  | arabic
  | arabicNumber
  | europeanNumber
  | europeanSeparator
  | europeanTerminator
  | commonSeparator
  | nonspacing
  | boundary
  | neutral
deriving DecidableEq, Repr

/-- Characters by their direction. Marks that take up no space have one of their own but for those
listed here, and whatever else is not listed is written from left to right. -/
def directions : List (Direction × Ranges) := [
  (.right, [
    (0x5BE, 0x5BE), (0x5C0, 0x5C0), (0x5C3, 0x5C3), (0x5C6, 0x5C6), (0x5D0, 0x5F4), (0x7C0, 0x7EA),
    (0x7F4, 0x7F5), (0x7FA, 0x7FA), (0x7FE, 0x815), (0x81A, 0x81A), (0x824, 0x824), (0x828, 0x828),
    (0x830, 0x858), (0x85E, 0x85E), (0x10800, 0x1091B), (0x10920, 0x10A00), (0x10A10, 0x10A35),
    (0x10A40, 0x10AE4), (0x10AEB, 0x10B35), (0x10B40, 0x10CFF), (0x10D40, 0x10D4F),
    (0x10D6F, 0x10D8F), (0x10E80, 0x10EA9), (0x10EAD, 0x10EB1), (0x10F00, 0x10F27),
    (0x10F70, 0x10F81), (0x10F86, 0x10FF6), (0x1E800, 0x1E8CF), (0x1E922, 0x1E943),
    (0x1E94B, 0x1E95F)]),
  (.arabic, [
    (0x608, 0x608), (0x60B, 0x60B), (0x60D, 0x60D), (0x61B, 0x64A), (0x66D, 0x66F), (0x671, 0x6D5),
    (0x6E5, 0x6E6), (0x6EE, 0x6EF), (0x6FA, 0x710), (0x712, 0x72F), (0x74D, 0x7A5), (0x7B1, 0x7B1),
    (0x860, 0x88F), (0x8A0, 0x8C9), (0xFBB2, 0xFBC2), (0xFE73, 0xFE73), (0x10D00, 0x10D23),
    (0x10EC2, 0x10EC7), (0x10F30, 0x10F45), (0x10F51, 0x10F59), (0x1EC71, 0x1ED3D)]),
  (.arabicNumber, [(0x660, 0x669), (0x66B, 0x66C), (0x10D30, 0x10D39), (0x10E60, 0x10E7E)]),
  (.europeanNumber, [(0x30, 0x39), (0x6F0, 0x6F9), (0x102E1, 0x102FB)]),
  (.europeanSeparator, [(0x2B, 0x2B), (0x2D, 0x2D), (0x2212, 0x2212)]),
  (.europeanTerminator, [
    (0x24, 0x24), (0xA2, 0xA5), (0xB0, 0xB1), (0x58F, 0x58F), (0x609, 0x60A), (0x66A, 0x66A),
    (0x9F2, 0x9F3), (0x9FB, 0x9FB), (0xAF1, 0xAF1), (0xBF9, 0xBF9), (0xE3F, 0xE3F),
    (0x17DB, 0x17DB), (0x2030, 0x2032), (0x20A0, 0x20C1), (0x212E, 0x212E), (0x2213, 0x2213),
    (0xA838, 0xA839), (0x11FDD, 0x11FE0), (0x1E2FF, 0x1E2FF)]),
  (.commonSeparator, [(0x2C, 0x2C), (0x2E, 0x2E), (0x60C, 0x60C), (0x2044, 0x2044)]),
  (.boundary, [(0x200C, 0x200D)]),
  (.neutral, [
    (0x21, 0x22), (0x26, 0x2A), (0x3B, 0x3B), (0x3D, 0x3D), (0x5F, 0x60), (0x7B, 0x7B),
    (0x7D, 0x7E), (0xA1, 0xA1), (0xA6, 0xA7), (0xA9, 0xA9), (0xAB, 0xAC), (0xAE, 0xAE),
    (0xB6, 0xB7), (0xBB, 0xBB), (0xBF, 0xBF), (0xD7, 0xD7), (0xF7, 0xF7), (0x2B9, 0x2BA),
    (0x2C2, 0x2CF), (0x2D2, 0x2ED), (0x2EF, 0x2FF), (0x375, 0x375), (0x3F6, 0x3F6), (0x58A, 0x58E),
    (0x606, 0x607), (0x60E, 0x60F), (0x6DE, 0x6DE), (0x6E9, 0x6E9), (0x7F6, 0x7F9), (0xBF3, 0xBF8),
    (0xBFA, 0xBFA), (0xC78, 0xC7E), (0xF3A, 0xF3D), (0x1390, 0x1399), (0x1400, 0x1400),
    (0x169B, 0x169C), (0x17F0, 0x180A), (0x1940, 0x1945), (0x19DE, 0x19FF), (0x2010, 0x2027),
    (0x2035, 0x2043), (0x2045, 0x205E), (0x2104, 0x2129), (0x213A, 0x214D), (0x218A, 0x2211),
    (0x2214, 0x2335), (0x237B, 0x2394), (0x2396, 0x26AB), (0x26AD, 0x27FF), (0x2900, 0x2BFF),
    (0x2CE5, 0x2CEA), (0x2CF9, 0x2CFF), (0x2E00, 0x3004), (0x3008, 0x3020), (0x3030, 0x3030),
    (0x3037, 0x3037), (0x303D, 0x303F), (0x30A0, 0x30A0), (0x30FB, 0x30FB), (0x31C0, 0x31E5),
    (0x4DC0, 0x4DFF), (0xA490, 0xA4C6), (0xA60D, 0xA60F), (0xA673, 0xA673), (0xA67E, 0xA67F),
    (0xA700, 0xA721), (0xA788, 0xA788), (0xA828, 0xA82B), (0xA874, 0xA877), (0xAB6A, 0xAB6B),
    (0xFBC3, 0xFDFF), (0xFE45, 0xFE46), (0x10101, 0x10101), (0x10140, 0x1018C), (0x10190, 0x101A0),
    (0x1091F, 0x1091F), (0x10B39, 0x10B3F), (0x10D6E, 0x10D6E), (0x10ED0, 0x10ED8),
    (0x11052, 0x11065), (0x11660, 0x1166C), (0x11FD5, 0x11FDC), (0x11FE1, 0x11FF1),
    (0x16FE2, 0x16FE2), (0x1CC00, 0x1CEF0), (0x1D1E9, 0x1D241), (0x1D245, 0x1D245),
    (0x1D300, 0x1D356), (0x1EEF0, 0x1F12F), (0x1F16D, 0x1F16F), (0x1F1AD, 0x1F1AD),
    (0x1F260, 0x1FBFA)]),
  (.left, [(0xCBF, 0xCBF), (0xCC6, 0xCC6), (0x11A07, 0x11A08), (0x11C3F, 0x11C3F)])]

def direction (c : Char) : Direction :=
  match directions.find? fun (_, ranges) => ranges.contains c.toNat with
  | some (found, _) => found
  | none => if Text.nonspacingMarks.contains c.toNat then .nonspacing else .left

/-- Whether a character makes the labels of its name subject to the rule. -/
def isRightward (c : Char) : Bool :=
  0x590 ≤ c.toNat && [.right, .arabic, .arabicNumber].contains (direction c)

/-- Whether the characters of a label go together. A label of one character passes if it may
begin with it. -/
def isDirected (label : List Char) : Bool :=
  match label.map direction with
  | [] => true
  | first :: rest =>
    -- marks at the end belong to the character that they stand on
    let rest := (rest.reverse.dropWhile (· == .nonspacing)).reverse
    let inside : List Direction :=
      [.europeanNumber, .europeanSeparator, .europeanTerminator, .commonSeparator, .nonspacing,
        .boundary, .neutral]
    let goes (last middle : List Direction) : Bool :=
      rest.getLast?.all last.contains && rest.all (middle ++ inside).contains
    match first with
    | .left => goes [.left, .europeanNumber] [.left]
    | .right | .arabic =>
      goes [.right, .arabic, .europeanNumber, .arabicNumber] [.right, .arabic, .arabicNumber] &&
        !(rest.contains .europeanNumber && rest.contains .arabicNumber)
    | _ => false

end WorkloadIdentity.Url
