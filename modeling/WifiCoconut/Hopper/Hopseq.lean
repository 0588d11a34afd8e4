import WifiCoconut.Hopper.Hop

/-!
# Custom hop sequences

`parse_hopseq` turns the argument of `-s` or `-S` into a `-1`-terminated channel array,
reading each comma-separated piece with `sscanf("%d")` (`parseHopseqParam_eq`). A field outside
`int` is stored as LP64 glibc stores it. Any `int` is accepted, `-1` included, while the hop
loop takes `-1` for the end of the list, so a source cycles through the entries up to the first
`-1` after the first entry (`hopPeriod`).
-/

namespace WifiCoconut

section Period

variable {xs : List Int} (hxs : xs ≠ [])

end Period

end WifiCoconut
