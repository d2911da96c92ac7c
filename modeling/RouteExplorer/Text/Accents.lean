import RouteExplorer.Text.CodeRanges

namespace RouteExplorer.Text

/-- Each plain letter with the letters that are written with it and a mark. -/
def accentedRanges : List (Char × CodeRanges) := [
  ('A', CodeRanges.ofText "
    C0-C5 100 102 104 1CD 200 202 226 1E00 1EA0 1EA2 1EA4 1EA6 1EA8 1EAA 1EAC 1EAE 1EB0 1EB2
    1EB4 1EB6"),
  ('B', CodeRanges.ofText "
    181-182 243 1E02 1E04 1E06"),
  ('C', CodeRanges.ofText "
    C7 106 108 10A 10C 187 23B"),
  ('D', CodeRanges.ofText "
    10E 110 189-18B 1E0A 1E0C 1E0E 1E10 1E12"),
  ('E', CodeRanges.ofText "
    C8-CB 112 114 116 118 11A 18E 190 204 206 228 246 1E18 1E1A 1EB8 1EBA 1EBC 1EBE 1EC0 1EC2
    1EC4 1EC6"),
  ('F', CodeRanges.ofText "
    191 1E1E"),
  ('G', CodeRanges.ofText "
    11C 11E 120 122 193 1E4 1E6 1F4 1E20"),
  ('H', CodeRanges.ofText "
    124 126 21E 1E22 1E24 1E26 1E28 1E2A"),
  ('I', CodeRanges.ofText "
    CC-CF 128 12A 12C 12E 130 197 1CF 208 20A 1E2C 1EC8 1ECA"),
  ('J', CodeRanges.ofText "
    134 248"),
  ('K', CodeRanges.ofText "
    136 198 1E8 1E30 1E32 1E34"),
  ('L', CodeRanges.ofText "
    139 13B 13D 141 23D 1E36 1E3A 1E3C"),
  ('M', CodeRanges.ofText "
    19C 1E3E 1E40 1E42"),
  ('N', CodeRanges.ofText "
    D1 143 145 147 19D 1F8 220 1E44 1E46 1E48 1E4A"),
  ('O', CodeRanges.ofText "
    D2-D6 D8 14C 14E 150 186 19F-1A0 1D1 1EA 20C 20E 22E 1ECC 1ECE 1ED0 1ED2 1ED4 1ED6 1ED8 1EDA
    1EDC 1EDE 1EE0 1EE2"),
  ('P', CodeRanges.ofText "
    1A4 1E54 1E56"),
  ('Q', CodeRanges.ofText "
    24A"),
  ('R', CodeRanges.ofText "
    154 156 158 210 212 24C 1E58 1E5A 1E5E"),
  ('S', CodeRanges.ofText "
    15A 15C 15E 160 218 1E60 1E62 1E9E"),
  ('T', CodeRanges.ofText "
    162 164 166 1AC 1AE 21A 23E 1E6A 1E6C 1E6E 1E70"),
  ('U', CodeRanges.ofText "
    D9-DC 168 16A 16C 16E 170 172 1AF 1D3 214 216 244 1E72 1E74 1E76 1EE4 1EE6 1EE8 1EEA 1EEC
    1EEE 1EF0"),
  ('V', CodeRanges.ofText "
    1B2 245 1E7C 1E7E"),
  ('W', CodeRanges.ofText "
    174 1E80 1E82 1E84 1E86 1E88"),
  ('X', CodeRanges.ofText "
    1E8A 1E8C"),
  ('Y', CodeRanges.ofText "
    DD 176 178 1B3 232 24E 1E8E 1EF2 1EF4 1EF6 1EF8"),
  ('Z', CodeRanges.ofText "
    179 17B 17D 1B5 224 1E90 1E92 1E94"),
  ('a', CodeRanges.ofText "
    E0-E5 101 103 105 1CE 201 203 227 250 363 1E01 1E9A 1EA1 1EA3 1EA5 1EA7 1EA9 1EAB 1EAD 1EAF
    1EB1 1EB3 1EB5 1EB7"),
  ('b', CodeRanges.ofText "
    180 183 253 1E03 1E05 1E07"),
  ('c', CodeRanges.ofText "
    E7 107 109 10B 10D 188 23C 255 297 368 2184"),
  ('d', CodeRanges.ofText "
    10F 111 18C 221 256-257 369 1E0B 1E0D 1E0F 1E11 1E13"),
  ('e', CodeRanges.ofText "
    E8-EB 113 115 117 119 11B 1DD 205 207 229 247 258 25B-25E 29A 364 1D08 1E19 1E1B 1EB9 1EBB
    1EBD 1EBF 1EC1 1EC3 1EC5 1EC7"),
  ('f', CodeRanges.ofText "
    192 1E1F"),
  ('g', CodeRanges.ofText "
    11D 11F 121 123 1E5 1E7 1F5 260-261 1E21"),
  ('h', CodeRanges.ofText "
    125 127 21F 265-266 2AE 36A 1E23 1E25 1E27 1E29 1E2B 1E96 2095"),
  ('i', CodeRanges.ofText "
    EC-EF 129 12B 12D 12F 131 1D0 209 20B 268 365 1D09 1D62 1E2D 1EC9 1ECB 2071"),
  ('j', CodeRanges.ofText "
    135 1F0 237 249 25F 29D"),
  ('k', CodeRanges.ofText "
    137 199 1E9 29E 1E31 1E33 1E35 2096"),
  ('l', CodeRanges.ofText "
    13A 13C 13E 140 142 19A 234 26B-26D 1E37 1E3B 1E3D 2097"),
  ('m', CodeRanges.ofText "
    26F-271 36B 1D1F 1E3F 1E41 1E43 2098"),
  ('n', CodeRanges.ofText "
    F1 144 146 148 19E 1F9 235 272-273 1E45 1E47 1E49 1E4B 2099"),
  ('o', CodeRanges.ofText "
    F2-F6 F8 14D 14F 151 1A1 1D2 1EB 20D 20F 22F 254 275 366 1D11-1D13 1D16-1D17 1ECD 1ECF 1ED1
    1ED3 1ED5 1ED7 1ED9 1EDB 1EDD 1EDF 1EE1 1EE3"),
  ('p', CodeRanges.ofText "
    1A5 1E55 1E57 209A"),
  ('q', CodeRanges.ofText "
    24B 2A0"),
  ('r', CodeRanges.ofText "
    155 157 159 211 213 24D 279-27E 36C 1E59 1E5B 1E5F"),
  ('s', CodeRanges.ofText "
    DF 15B 15D 15F 161 219 23F 282 1E61 1E63 209B"),
  ('t', CodeRanges.ofText "
    163 165 167 1AB 1AD 21B 236 287-288 36D 1E6B 1E6D 1E6F 1E71 1E97 209C"),
  ('u', CodeRanges.ofText "
    F9-FC 169 16B 16D 16F 171 173 1B0 1D4 215 217 289 367 1D1D-1D1E 1D64 1E73 1E75 1E77 1EE5
    1EE7 1EE9 1EEB 1EED 1EEF 1EF1"),
  ('v', CodeRanges.ofText "
    28B-28C 36E 1D65 1E7D 1E7F"),
  ('w', CodeRanges.ofText "
    175 28D 1E81 1E83 1E85 1E87 1E89 1E98"),
  ('x', CodeRanges.ofText "
    36F 1E8B 1E8D"),
  ('y', CodeRanges.ofText "
    FD FF 177 1B4 233 24F 28E 1E8F 1E99 1EF3 1EF5 1EF7 1EF9"),
  ('z', CodeRanges.ofText "
    17A 17C 17E 1B6 225 240 290-291 1E91 1E93 1E95")]

/-- The plain letter of an accented Latin letter; any other character is its own plain form. -/
def dropAccent (character : Char) : Char :=
  let code := character.toNat
  if code < 0xC0 ∨ 0x2184 < code then character
  else match accentedRanges.find? fun entry => entry.2.contains code with
    | some entry => entry.1
    | none => character

end RouteExplorer.Text
