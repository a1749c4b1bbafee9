/-!
# General categories

The code space falls into runs of code points of one general category. `runs` writes them down in
order: the two letters of a category, then the length of the run unless it is one. `LC` and a number
stand for so many pairs of an upper-case and a lower-case letter. `Category.of` looks a code point up.
-/

namespace BoardBench.Text

/-- The general category of a code point. -/
inductive Category where
  | lu | ll | lt | lm | lo | mn | mc | me | nd | nl | no | pc | pd | ps | pe
  | pi | pf | po | sm | sc | sk | so | zs | zl | zp | cc | cf | cs | co | cn
  deriving DecidableEq, Repr

namespace Category

/-- The category that two letters name. -/
def ofLetters? : Char → Char → Option Category
  | 'L', 'u' => some .lu
  | 'L', 'l' => some .ll
  | 'L', 't' => some .lt
  | 'L', 'm' => some .lm
  | 'L', 'o' => some .lo
  | 'M', 'n' => some .mn
  | 'M', 'c' => some .mc
  | 'M', 'e' => some .me
  | 'N', 'd' => some .nd
  | 'N', 'l' => some .nl
  | 'N', 'o' => some .no
  | 'P', 'c' => some .pc
  | 'P', 'd' => some .pd
  | 'P', 's' => some .ps
  | 'P', 'e' => some .pe
  | 'P', 'i' => some .pi
  | 'P', 'f' => some .pf
  | 'P', 'o' => some .po
  | 'S', 'm' => some .sm
  | 'S', 'c' => some .sc
  | 'S', 'k' => some .sk
  | 'S', 'o' => some .so
  | 'Z', 's' => some .zs
  | 'Z', 'l' => some .zl
  | 'Z', 'p' => some .zp
  | 'C', 'c' => some .cc
  | 'C', 'f' => some .cf
  | 'C', 's' => some .cs
  | 'C', 'o' => some .co
  | 'C', 'n' => some .cn
  | _, _ => none

/-- The runs of the code space, in order. -/
def runs : List String := [
  "Cc32 Zs Po3 Sc Po3 Ps Pe Po Sm Po Pd Po2 Nd10 Po2 Sm3 Po2 Lu26 Ps Po Pe Sk Pc Sk Ll26 Ps Sm",
  "Pe Sm Cc33 Zs Po Sc4 So Po Sk So Lo Pi Sm Cf So Sk So Sm No2 Sk Ll Po2 Sk No Lo Pf No3 Po",
  "Lu23 Sm Lu7 Ll24 Sm Ll8 LC27 Lu Ll2 LC7 Lu Ll2 LC23 Lu2 Ll Lu Ll Lu Ll3 Lu2 Ll Lu Ll Lu2 Ll",
  "Lu3 Ll2 Lu4 Ll Lu2 Ll Lu3 Ll3 Lu2 Ll Lu2 Ll LC2 Lu2 Ll Lu Ll2 Lu Ll Lu2 Ll Lu3 Ll Lu Ll Lu2",
  "Ll2 Lo Lu Ll3 Lo4 Lu Lt Ll Lu Lt Ll Lu Lt Ll LC7 Lu Ll2 LC8 Lu Ll2 Lu Lt Ll Lu Ll Lu3 Ll",
  "LC28 Lu Ll7 Lu2 Ll Lu2 Ll2 Lu Ll Lu4 Ll LC3 Lu Ll69 Lo2 Ll26 Lm18 Sk4 Lm12 Sk14 Lm5 Sk7 Lm",
  "Sk Lm Sk17 Mn112 LC2 Lm Sk Lu Ll Cn2 Lm Ll3 Po Lu Cn4 Sk2 Lu Po Lu3 Cn Lu Cn Lu2 Ll Lu17 Cn",
  "Lu9 Ll35 Lu Ll2 Lu3 Ll3 LC11 Lu Ll5 Lu Ll Sm Lu Ll Lu2 Ll2 Lu51 Ll48 LC17 So Mn5 Me2 LC27",
  "Lu2 Ll LC5 Lu Ll2 LC48 Cn Lu38 Cn2 Lm Po6 Ll41 Po Pd Cn2 So2 Sc Cn Mn45 Pd Mn Po Mn2 Po Mn2",
  "Po Mn Cn8 Lo27 Cn4 Lo4 Po2 Cn11 Cf6 Sm3 Po2 Sc Po2 So2 Mn11 Po Cf Po3 Lo32 Lm Lo10 Mn21 Nd10",
  "Po4 Lo2 Mn Lo99 Po Lo Mn7 Cf So Mn6 Lm2 Mn2 So Mn4 Lo2 Nd10 Lo3 So2 Lo Po14 Cn Cf Lo Mn Lo30",
  "Mn27 Cn2 Lo89 Mn11 Lo Cn14 Nd10 Lo33 Mn9 Lm2 So Po3 Lm Cn2 Mn Sc2 Lo22 Mn4 Lm Mn9 Lm Mn3 Lm",
  "Mn5 Cn2 Po15 Cn Lo25 Mn3 Cn2 Po Cn Lo11 Cn5 Lo24 Sk Lo7 Cf2 Cn5 Mn9 Lo41 Lm Mn24 Cf Mn32 Mc",
  "Lo54 Mn Mc Mn Lo Mc3 Mn8 Mc4 Mn Mc2 Lo Mn7 Lo10 Mn2 Po2 Nd10 Po Lm Lo15 Mn Mc2 Cn Lo8 Cn2",
  "Lo2 Cn2 Lo22 Cn Lo7 Cn Lo Cn3 Lo4 Cn2 Mn Lo Mc3 Mn4 Cn2 Mc2 Cn2 Mc2 Mn Lo Cn8 Mc Cn4 Lo2 Cn",
  "Lo3 Mn2 Cn2 Nd10 Lo2 Sc2 No6 So Sc Lo Po Mn Cn2 Mn2 Mc Cn Lo6 Cn4 Lo2 Cn2 Lo22 Cn Lo7 Cn Lo2",
  "Cn Lo2 Cn Lo2 Cn2 Mn Cn Mc3 Mn2 Cn4 Mn2 Cn2 Mn3 Cn3 Mn Cn7 Lo4 Cn Lo Cn7 Nd10 Mn2 Lo3 Mn Po",
  "Cn10 Mn2 Mc Cn Lo9 Cn Lo3 Cn Lo22 Cn Lo7 Cn Lo2 Cn Lo5 Cn2 Mn Lo Mc3 Mn5 Cn Mn2 Mc Cn Mc2 Mn",
  "Cn2 Lo Cn15 Lo2 Mn2 Cn2 Nd10 Po Sc Cn7 Lo Mn6 Cn Mn Mc2 Cn Lo8 Cn2 Lo2 Cn2 Lo22 Cn Lo7 Cn",
  "Lo2 Cn Lo5 Cn2 Mn Lo Mc Mn Mc Mn4 Cn2 Mc2 Cn2 Mc2 Mn Cn7 Mn2 Mc Cn4 Lo2 Cn Lo3 Mn2 Cn2 Nd10",
  "So Lo No6 Cn10 Mn Lo Cn Lo6 Cn3 Lo3 Cn Lo4 Cn3 Lo2 Cn Lo Cn Lo2 Cn3 Lo2 Cn3 Lo3 Cn3 Lo12 Cn4",
  "Mc2 Mn Mc2 Cn3 Mc3 Cn Mc3 Mn Cn2 Lo Cn6 Mc Cn14 Nd10 No3 So6 Sc So Cn5 Mn Mc3 Mn Lo8 Cn Lo3",
  "Cn Lo23 Cn Lo16 Cn2 Mn Lo Mn3 Mc4 Cn Mn3 Cn Mn4 Cn7 Mn2 Cn Lo3 Cn Lo2 Cn2 Lo2 Mn2 Cn2 Nd10",
  "Cn7 Po No7 So Lo Mn Mc2 Po Lo8 Cn Lo3 Cn Lo23 Cn Lo10 Cn Lo5 Cn2 Mn Lo Mc Mn Mc5 Cn Mn Mc2",
  "Cn Mc2 Mn2 Cn7 Mc2 Cn5 Lo3 Cn Lo2 Mn2 Cn2 Nd10 Cn Lo2 Mc Cn12 Mn2 Mc2 Lo9 Cn Lo3 Cn Lo41 Mn2",
  "Lo Mc3 Mn4 Cn Mc3 Cn Mc3 Mn Lo So Cn4 Lo3 Mc No7 Lo3 Mn2 Cn2 Nd10 No9 So Lo6 Cn Mn Mc2 Cn",
  "Lo18 Cn3 Lo24 Cn Lo9 Cn Lo Cn2 Lo7 Cn3 Mn Cn4 Mc3 Mn3 Cn Mn Cn Mc8 Cn6 Nd10 Cn2 Mc2 Po Cn12",
  "Lo48 Mn Lo2 Mn7 Cn4 Sc Lo6 Lm Mn8 Po Nd10 Po2 Cn37 Lo2 Cn Lo Cn Lo5 Cn Lo24 Cn Lo Cn Lo10 Mn",
  "Lo2 Mn9 Lo Cn2 Lo5 Cn Lm Cn Mn7 Cn Nd10 Cn2 Lo4 Cn32 Lo So3 Po15 So Po So3 Mn2 So6 Nd10 No10",
  "So Mn So Mn So Mn Ps Pe Ps Pe Mc2 Lo8 Cn Lo36 Cn4 Mn14 Mc Mn5 Po Mn2 Lo5 Mn11 Cn Mn36 Cn So8",
  "Mn So6 Cn So2 Po5 So4 Po2 Cn37 Lo43 Mc2 Mn4 Mc Mn6 Mc Mn2 Mc2 Mn2 Lo Nd10 Po6 Lo6 Mc2 Mn2",
  "Lo4 Mn3 Lo Mc3 Lo2 Mc7 Lo3 Mn4 Lo13 Mn Mc2 Mn2 Mc6 Mn Lo Mc Nd10 Mc3 Mn So2 Lu38 Cn Lu Cn5",
  "Lu Cn2 Ll43 Po Lm Ll3 Lo329 Cn Lo4 Cn2 Lo7 Cn Lo Cn Lo4 Cn2 Lo41 Cn Lo4 Cn2 Lo33 Cn Lo4 Cn2",
  "Lo7 Cn Lo Cn Lo4 Cn2 Lo15 Cn Lo57 Cn Lo4 Cn2 Lo67 Cn2 Mn3 Po9 No20 Cn3 Lo16 So10 Cn6 Lu86",
  "Cn2 Ll6 Cn2 Pd Lo620 So Po Lo17 Zs Lo26 Ps Pe Cn3 Lo75 Po3 Nl3 Lo8 Cn7 Lo18 Mn3 Mc Cn9 Lo19",
  "Mn2 Mc Po2 Cn9 Lo18 Mn2 Cn12 Lo13 Cn Lo3 Cn Mn2 Cn12 Lo52 Mn2 Mc Mn7 Mc8 Mn Mc2 Mn11 Po3 Lm",
  "Po3 Sc Lo Mn Cn2 Nd10 Cn6 No10 Cn6 Po6 Pd Po4 Mn3 Cf Mn Nd10 Cn6 Lo35 Lm Lo53 Cn7 Lo5 Mn2",
  "Lo34 Mn Lo Cn5 Lo70 Cn10 Lo31 Cn Mn3 Mc4 Mn2 Mc3 Cn4 Mc2 Mn Mc6 Mn3 Cn4 So Cn3 Po2 Nd10 Lo30",
  "Cn2 Lo5 Cn11 Lo44 Cn4 Lo26 Cn6 Nd10 No Cn3 So34 Lo23 Mn2 Mc2 Mn Cn2 Po2 Lo53 Mc Mn Mc Mn7 Cn",
  "Mn Mc Mn Mc2 Mn8 Mc6 Mn10 Cn2 Mn Nd10 Cn6 Nd10 Cn6 Po7 Lm Po6 Cn2 Mn14 Me Mn31 Cn2 Mn12 Cn20",
  "Mn4 Mc Lo47 Mn Mc Mn5 Mc Mn Mc5 Mn Mc2 Lo8 Cn Po2 Nd10 Po7 So10 Mn9 So9 Po3 Mn2 Mc Lo30 Mc",
  "Mn4 Mc2 Mn2 Mc Mn3 Lo2 Nd10 Lo44 Mn Mc Mn2 Mc3 Mn Mc Mn3 Mc2 Cn8 Po4 Lo36 Mc8 Mn8 Mc2 Mn2",
  "Cn3 Po5 Nd10 Cn3 Lo3 Nd10 Lo30 Lm6 Po2 Ll9 Lu Ll Cn5 Lu43 Cn2 Lu3 Po8 Cn8 Mn3 Po Mn13 Mc Mn7",
  "Lo4 Mn Lo6 Mn Lo2 Mc Mn2 Lo Cn5 Ll44 Lm63 Ll13 Lm Ll34 Lm37 Mn64 LC74 Lu Ll9 LC48 Lu Ll9 Lu8",
  "Ll6 Cn2 Lu6 Cn2 Ll8 Lu8 Ll8 Lu8 Ll6 Cn2 Lu6 Cn2 Ll8 Cn Lu Cn Lu Cn Lu Cn Lu Ll8 Lu8 Ll14 Cn2",
  "Ll8 Lt8 Ll8 Lt8 Ll8 Lt8 Ll5 Cn Ll2 Lu4 Lt Sk Ll Sk3 Ll3 Cn Ll2 Lu4 Lt Sk3 Ll4 Cn2 Ll2 Lu4 Cn",
  "Sk3 Ll8 Lu5 Sk3 Cn2 Ll3 Cn Ll2 Lu4 Lt Sk2 Cn Zs11 Cf5 Pd6 Po2 Pi Pf Ps Pi2 Pf Ps Pi Po8 Zl",
  "Zp Cf5 Zs Po9 Pi Pf Po4 Pc2 Po3 Sm Ps Pe Po11 Sm Po Pc Po10 Zs Cf5 Cn Cf10 No Lm Cn2 No6 Sm3",
  "Ps Pe Lm No10 Sm3 Ps Pe Cn Lm13 Cn3 Sc34 Cn14 Mn13 Me4 Mn Me3 Mn12 Cn15 So2 Lu So4 Lu So2 Ll",
  "Lu3 Ll2 Lu3 Ll So Lu So2 Sm Lu5 So6 Lu So Lu So Lu So Lu4 So Ll Lu4 Ll Lo4 Ll So2 Ll2 Lu2",
  "Sm5 Lu Ll4 So Sm So2 Ll So No16 Nl35 Lu Ll Nl4 No So2 Cn4 Sm5 So5 Sm2 So4 Sm So2 Sm So2 Sm",
  "So7 Sm So31 Sm2 So2 Sm So Sm So31 Sm268 So8 Ps Pe Ps Pe So20 Sm2 So7 Ps Pe So81 Sm So30 Sm25",
  "So40 Sm6 So72 Cn22 So11 Cn21 No60 So78 No22 So183 Sm So9 Sm So54 Sm8 So111 Sm So248 Ps Pe Ps",
  "Pe Ps Pe Ps Pe Ps Pe Ps Pe Ps Pe No30 So44 Sm5 Ps Pe Sm31 Ps Pe Ps Pe Ps Pe Ps Pe Ps Pe Sm16",
  "So256 Sm131 Ps Pe Ps Pe Ps Pe Ps Pe Ps Pe Ps Pe Ps Pe Ps Pe Ps Pe Ps Pe Ps Pe Sm63 Ps Pe Ps",
  "Pe Sm32 Ps Pe Sm258 So48 Sm21 So2 Sm6 So39 Cn2 So138 Lu48 Ll48 Lu Ll Lu3 Ll2 LC3 Lu4 Ll Lu",
  "Ll2 Lu Ll6 Lm2 Lu3 Ll LC48 Lu Ll2 So6 LC2 Mn3 Lu Ll Cn5 Po4 No Po2 Ll38 Cn Ll Cn5 Ll Cn2",
  "Lo56 Cn7 Lm Po Cn14 Mn Lo23 Cn9 Lo7 Cn Lo7 Cn Lo7 Cn Lo7 Cn Lo7 Cn Lo7 Cn Lo7 Cn Lo7 Cn Mn32",
  "Po2 Pi Pf Pi Pf Po3 Pi Pf Po Pi Pf Po9 Pd Po2 Pd Po Pi Pf Po2 Pi Pf Ps Pe Ps Pe Ps Pe Ps Pe",
  "Po5 Lm Po10 Pd2 Po4 Pd Po Ps Po13 So2 Po3 Ps Pe Ps Pe Ps Pe Ps Pe Pd Cn34 So26 Cn So89 Cn12",
  "So214 Cn26 So16 Zs Po3 So Lm Lo Nl Ps Pe Ps Pe Ps Pe Ps Pe Ps Pe So2 Ps Pe Ps Pe Ps Pe Ps Pe",
  "Pd Ps Pe2 So Nl9 Mn4 Mc2 Pd Lm5 So2 Nl3 Lm Lo Po So2 Cn Lo86 Cn2 Mn2 Sk2 Lm2 Lo Pd Lo90 Po",
  "Lm3 Lo Cn5 Lo43 Cn Lo94 Cn So2 No4 So10 Lo32 So38 Cn9 So Lo16 So31 Cn No10 So30 No8 So No15",
  "So32 No10 So39 No15 So320 Lo6592 So64 Lo21013 Lm Lo1143 Cn3 So55 Cn9 Lo40 Lm6 Po2 Lo268 Lm",
  "Po3 Lo16 Nd10 Lo2 Cn20 LC23 Lo Mn Me3 Po Mn10 Po Lm LC14 Lm2 Mn2 Lo70 Nl10 Mn2 Po6 Cn8 Sk23",
  "Lm9 Sk2 LC6 Lu Ll3 LC31 Lm Ll8 LC2 Lu2 Ll LC4 Lm Sk2 LC2 Lo Lu Ll Lu Ll3 LC10 Lu5 Ll Lu5 Ll",
  "LC7 Lu4 Ll Lu Ll Lu2 Ll LC7 Lu Cn20 Lm4 Lu Ll Lo Lm2 Ll Lo7 Mn Lo3 Mn Lo4 Mn Lo23 Mc2 Mn2 Mc",
  "So4 Mn Cn3 No6 So2 Sc So Cn6 Lo52 Po4 Cn8 Mc2 Lo50 Mc16 Mn2 Cn8 Po2 Nd10 Cn6 Mn18 Lo6 Po3 Lo",
  "Po Lo2 Mn Nd10 Lo28 Mn8 Po2 Lo23 Mn11 Mc2 Cn11 Po Lo29 Cn3 Mn3 Mc Lo47 Mn Mc2 Mn4 Mc2 Mn2",
  "Mc3 Po13 Cn Lm Nd10 Cn4 Po2 Lo5 Mn Lm Lo9 Nd10 Lo5 Cn Lo41 Mn6 Mc2 Mn2 Mc2 Mn2 Cn9 Lo3 Mn",
  "Lo8 Mn Mc Cn2 Nd10 Cn2 Po4 Lo16 Lm Lo6 So3 Lo Mc Mn Mc Lo50 Mn Lo Mn3 Lo2 Mn2 Lo5 Mn2 Lo Mn",
  "Lo Cn24 Lo2 Lm Po2 Lo11 Mc Mn2 Mc2 Po2 Lo Lm2 Mc Mn Cn10 Lo6 Cn2 Lo6 Cn2 Lo6 Cn9 Lo7 Cn Lo7",
  "Cn Ll43 Sk Lm4 Ll9 Lm Sk2 Cn4 Ll80 Lo35 Mc2 Mn Mc2 Mn Mc2 Po Mc Mn Cn2 Nd10 Cn6 Lo11172 Cn12",
  "Lo23 Cn4 Lo49 Cn4 Cs2048 Co6400 Lo366 Cn2 Lo106 Cn38 Ll7 Cn12 Ll5 Cn5 Lo Mn Lo10 Sm Lo13 Cn",
  "Lo5 Cn Lo Cn Lo2 Cn Lo2 Cn Lo108 Sk17 So16 Lo363 Pe Ps So16 Lo64 So2 Lo54 So8 Cn32 Lo12 Sc",
  "So3 Mn16 Po7 Ps Pe Po Cn6 Mn16 Po Pd2 Pc2 Ps Pe Ps Pe Ps Pe Ps Pe Ps Pe Ps Pe Ps Pe Ps Pe",
  "Po2 Ps Pe Po4 Pc3 Po3 Cn Po4 Pd Ps Pe Ps Pe Ps Pe Po3 Sm Pd Sm3 Cn Po Sc Po2 Cn4 Lo5 Cn",
  "Lo135 Cn2 Cf Cn Po3 Sc Po3 Ps Pe Po Sm Po Pd Po2 Nd10 Po2 Sm3 Po2 Lu26 Ps Po Pe Sk Pc Sk",
  "Ll26 Ps Sm Pe Sm Ps Pe Po Ps Pe Po2 Lo10 Lm Lo45 Lm2 Lo31 Cn3 Lo6 Cn2 Lo6 Cn2 Lo6 Cn2 Lo3",
  "Cn3 Sc2 Sm Sk So Sc2 Cn So Sm4 So2 Cn10 Cf3 So2 Cn2 Lo12 Cn Lo26 Cn Lo19 Cn Lo2 Cn Lo15 Cn2",
  "Lo14 Cn34 Lo123 Cn5 Po3 Cn4 No45 Cn3 So9 Nl53 No4 So17 No2 So3 Cn So13 Cn3 So Cn47 So45 Mn",
  "Cn130 Lo29 Cn3 Lo49 Cn15 Mn No27 Cn4 Lo32 No4 Cn9 Lo20 Nl Lo8 Nl Cn5 Lo38 Mn5 Cn5 Lo30 Cn Po",
  "Lo36 Cn4 Lo8 Po Nl5 Cn42 Lu40 Ll40 Lo78 Cn2 Nd10 Cn6 Lu36 Cn4 Ll36 Cn4 Lo40 Cn8 Lo52 Cn11 Po",
  "Lu11 Cn Lu15 Cn Lu7 Cn Lu2 Cn Ll11 Cn Ll15 Cn Ll7 Cn Ll2 Cn3 Lo52 Cn12 Lo311 Cn9 Lo22 Cn10",
  "Lo8 Cn24 Lm6 Cn Lm42 Cn Lm9 Cn69 Lo6 Cn2 Lo Cn Lo44 Cn Lo2 Cn3 Lo Cn2 Lo23 Cn Po No8 Lo23",
  "So2 No7 Lo31 Cn8 No9 Cn48 Lo19 Cn Lo2 Cn5 No5 Lo22 No6 Cn3 Po Lo26 Cn5 Po Lo26 Cn38 Lo56 Cn4",
  "No2 Lo2 No16 Cn2 No46 Lo Mn3 Cn Mn2 Cn5 Mn4 Lo4 Cn Lo3 Cn Lo29 Cn2 Mn3 Cn4 Mn No9 Cn7 Po9",
  "Cn7 Lo29 No2 Po Lo29 No3 Cn32 Lo8 So Lo28 Mn2 Cn4 No5 Po7 Cn9 Lo54 Cn3 Po7 Lo22 Cn2 No8 Lo19",
  "Cn5 No8 Lo18 Cn7 Po4 Cn12 No7 Cn80 Lo73 Cn55 Lu51 Cn13 Ll51 Cn7 No6 Lo36 Mn4 Cn8 Nd10 Cn6",
  "Nd10 Lo4 Lm Lo Lu22 Cn3 Mn5 Pd Lm Ll22 Cn8 Sm2 Cn208 No31 Cn Lo42 Cn Mn2 Pd Cn2 Lo2 Cn16 Lo3",
  "Lm Lo2 Cn8 Po So8 Cn33 Mn6 Lo29 No10 Lo Cn8 Lo22 Mn11 No4 Po5 Cn22 Lo18 Mn4 Po4 Cn38 Lo21",
  "No7 Cn20 Lo23 Cn9 Mc Mn Mc Lo53 Mn15 Po7 Cn4 No20 Nd10 Mn Lo2 Mn2 Lo Cn9 Mn3 Mc Lo45 Mc3 Mn4",
  "Mc2 Mn2 Po2 Cf Po4 Mn Cn10 Cf Cn2 Lo25 Cn7 Nd10 Cn6 Mn3 Lo36 Mn5 Mc Mn8 Cn Nd10 Po4 Lo Mc2",
  "Lo Cn8 Lo35 Mn Po2 Lo Cn9 Mn2 Mc Lo48 Mc3 Mn9 Mc2 Lo4 Po4 Mn4 Po Mc Mn Nd10 Lo Po Lo Po3 Cn",
  "No20 Cn11 Lo18 Cn Lo25 Mc3 Mn3 Mc2 Mn Mc Mn2 Po6 Mn Lo2 Mn Cn62 Lo7 Cn Lo Cn Lo4 Cn Lo15 Cn",
  "Lo10 Po Cn6 Lo47 Mn Mc3 Mn8 Cn5 Nd10 Cn6 Mn2 Mc2 Cn Lo8 Cn2 Lo2 Cn2 Lo22 Cn Lo7 Cn Lo2 Cn",
  "Lo5 Cn Mn2 Lo Mc2 Mn Mc4 Cn2 Mc2 Cn2 Mc3 Cn2 Lo Cn6 Mc Cn5 Lo5 Mc2 Cn2 Mn7 Cn3 Mn5 Cn11 Lo10",
  "Cn Lo Cn2 Lo Cn Lo38 Cn Lo Mc3 Mn6 Cn Mc Cn2 Mc Cn Mc4 Cn Mc2 Mn Mc Mn Lo Mn Lo Po2 Cn Po2",
  "Cn8 Mn2 Cn29 Lo53 Mc3 Mn8 Mc2 Mn3 Mc Mn Lo4 Po5 Nd10 Po2 Cn Po Mn Lo3 Cn30 Lo48 Mc3 Mn6 Mc",
  "Mn Mc4 Mn2 Mc Mn2 Lo2 Po Lo Cn8 Nd10 Cn166 Lo47 Mc3 Mn4 Cn2 Mc4 Mn2 Mc Mn2 Po23 Lo4 Mn2 Cn34",
  "Lo48 Mc3 Mn8 Mc2 Mn Mc Mn2 Po3 Lo Cn11 Nd10 Cn6 Po13 Cn19 Lo43 Mn Mc Mn Mc2 Mn6 Mc Mn Lo Po",
  "Cn6 Nd10 Cn6 Nd20 Cn28 Lo27 Cn2 Mn Mc Mn Mc2 Mn4 Mc Mn5 Cn4 Nd10 No2 Po3 So Lo7 Cn185 Lo44",
  "Mc3 Mn9 Mc Mn2 Po Cn100 Lu32 Ll32 Nd10 No9 Cn12 Lo8 Cn2 Lo Cn2 Lo8 Cn Lo2 Cn Lo24 Mc6 Cn Mc2",
  "Cn2 Mn2 Mc Mn Lo Mc Lo Mc Mn Po3 Cn9 Nd10 Cn70 Lo8 Cn2 Lo39 Mc3 Mn4 Cn2 Mn2 Mc4 Mn Lo Po Lo",
  "Mc Cn27 Lo Mn10 Lo40 Mn6 Mc Lo Mn4 Po8 Mn Cn8 Lo Mn6 Mc2 Mn3 Lo46 Mn13 Mc Mn2 Po3 Lo Po5",
  "Cn13 Lo73 Cn7 Po10 Cn86 Mn Mc Mn3 Mc Mn Mc Cn88 Lo33 Po Cn14 Nd10 Cn6 Lo9 Cn Lo37 Mc Mn7 Cn",
  "Mn6 Mc Mn Lo Po5 Cn10 Nd10 No19 Cn3 Po2 Lo30 Cn2 Mn22 Cn Mc Mn7 Mc Mn2 Mc Mn2 Cn73 Lo7 Cn",
  "Lo2 Cn Lo38 Mn6 Cn3 Mn Cn Mn2 Cn Mn7 Lo Mn Cn8 Nd10 Cn6 Lo6 Cn Lo2 Cn Lo32 Mc5 Cn Mn2 Cn Mc2",
  "Mn Mc Mn Lo Cn7 Nd10 Cn6 Lo41 Lm Lo2 Cn4 Nd10 Cn246 Lo19 Mn2 Mc2 Po2 Cn7 Mn2 Lo Mc Lo13 Cn",
  "Lo34 Mc2 Mn5 Cn3 Mc2 Mn Mc Mn Po13 Nd10 Mn Cn85 Lo Cn15 No21 So8 Sc4 So17 Cn13 Po Lo922",
  "Cn102 Nl111 Cn Po5 Cn11 Lo196 Cn2636 Lo97 Po2 Cn13 Lo1072 Cf16 Mn Lo6 Mn15 Cn10 Lo3995 Cn5",
  "Lo583 Cn6841 Lo30 Mn12 Mc3 Mn3 Nd10 Cn1734 Lo569 Cn7 Lo31 Cn Nd10 Cn4 Po2 Lo79 Cn Nd10 Cn6",
  "Lo30 Cn2 Mn5 Po Cn10 Lo48 Mn7 Po5 So4 Lm4 Po So Cn10 Nd10 Cn No7 Cn Lo21 Cn5 Lo19 Cn432 Lm3",
  "Lo40 Lm2 Po3 Nd10 Cn198 Lu32 Ll32 No23 Po4 Cn5 Lu25 Cn2 Ll25 Cn44 Lo75 Cn4 Mn Lo Mc55 Cn7",
  "Mn4 Lm13 Cn64 Lm2 Po Lm Mn Cn11 Mc2 Lm2 Nl3 Cn9 Lo7382 Cn41 Lo32 Cn97 Lo115 Cn8701 Lm4 Cn",
  "Lm7 Cn Lm2 Cn Lo291 Cn15 Lo Cn29 Lo3 Cn2 Lo Cn14 Lo4 Cn8 Lo396 Cn2308 Lo107 Cn5 Lo13 Cn3 Lo9",
  "Cn7 Lo10 Cn2 So Mn2 Po Cf4 Cn3932 So240 Nd10 So3 Cn3 So436 Cn6 So23 Cn15 So16 Sm Cn15 Mn46",
  "Cn2 Mn23 Cn9 So116 Cn60 So246 Cn10 So39 Cn2 So60 Mc2 Mn3 So3 Mc6 Cf8 Mn8 So2 Mn7 So30 Mn4",
  "So61 Cn21 So66 Mn3 So Cn122 No20 Cn12 No20 Cn12 So87 Cn9 No25 Cn135 Lu26 Ll26 Lu26 Ll7 Cn",
  "Ll18 Lu26 Ll26 Lu Cn Lu2 Cn2 Lu Cn2 Lu2 Cn2 Lu4 Cn Lu8 Ll4 Cn Ll Cn Ll7 Cn Ll11 Lu26 Ll26",
  "Lu2 Cn Lu4 Cn2 Lu8 Cn Lu7 Cn Ll26 Lu2 Cn Lu4 Cn Lu5 Cn Lu Cn3 Lu7 Cn Ll26 Lu26 Ll26 Lu26",
  "Ll26 Lu26 Ll26 Lu26 Ll26 Lu26 Ll26 Lu26 Ll28 Cn2 Lu25 Sm Ll25 Sm Ll6 Lu25 Sm Ll25 Sm Ll6",
  "Lu25 Sm Ll25 Sm Ll6 Lu25 Sm Ll25 Sm Ll6 Lu25 Sm Ll25 Sm Ll6 Lu Ll Cn2 Nd50 So512 Mn55 So4",
  "Mn50 So8 Mn So14 Mn So2 Po5 Cn15 Mn5 Cn Mn15 Cn1104 Ll10 Lo Ll20 Cn6 Ll6 Cn213 Mn7 Cn Mn17",
  "Cn2 Mn7 Cn Mn2 Cn Mn5 Cn5 Lm62 Cn33 Mn Cn112 Lo45 Cn3 Mn7 Lm7 Cn2 Nd10 Cn4 Lo So Cn320 Lo30",
  "Mn Cn17 Lo44 Mn4 Nd10 Cn5 Sc Cn464 Lo27 Lm Mn4 Nd10 Cn214 Lo30 Mn2 Lo Nd10 Cn4 Po Cn192 Lo31",
  "Cn Lo3 Mn Lo2 Mn Lo7 Mn2 Lo5 Mn Cn8 Lo Lm Cn224 Lo7 Cn Lo4 Cn Lo2 Cn Lo15 Cn Lo197 Cn2 No9",
  "Mn7 Cn41 Lu34 Ll34 Mn7 Lm Cn4 Nd10 Cn4 Po2 Cn785 No59 So No3 Sc No4 Cn76 No45 So No15 Cn194",
  "Lo4 Cn Lo27 Cn Lo2 Cn Lo Cn2 Lo Cn Lo10 Cn Lo4 Cn Lo Cn Lo Cn6 Lo Cn4 Lo Cn Lo Cn Lo Cn Lo3",
  "Cn Lo2 Cn Lo Cn2 Lo Cn Lo Cn Lo Cn Lo Cn Lo Cn Lo2 Cn Lo Cn2 Lo4 Cn Lo7 Cn Lo4 Cn Lo4 Cn Lo",
  "Cn Lo10 Cn Lo17 Cn5 Lo3 Cn Lo5 Cn Lo17 Cn52 Sm2 Cn270 So44 Cn4 So100 Cn12 So15 Cn2 So15 Cn",
  "So15 Cn So37 Cn10 No13 So161 Cn56 So29 Cn13 So44 Cn4 So9 Cn7 So2 Cn14 So6 Cn154 So251 Sk5",
  "So729 Cn3 So17 Cn3 So13 Cn3 So218 Cn6 So12 Cn4 So Cn15 So12 Cn4 So56 Cn8 So10 Cn6 So40 Cn8",
  "So30 Cn2 So12 Cn4 So2 Cn14 Sm9 Cn39 So344 Cn8 So14 Cn2 So13 Cn3 So11 Cn3 So57 Cn So Cn4 So16",
  "Cn2 So12 Cn4 So10 Cn7 So147 Cn So92 Nd10 So Cn1029 Lo42720 Cn32 Lo4382 Cn2 Lo5774 Cn2 Lo7473",
  "Cn15 Lo622 Cn2466 Lo542 Cn1506 Lo4939 Cn5 Lo8490 Cn707463 Cf Cn30 Cf96 Cn128 Mn240 Cn65040",
  "Co65534 Cn2 Co65534 Cn2"]

/-- The runs that one word of `runs` stands for, as lengths and categories. -/
def readWord (word : String) : List (Nat × Category) :=
  match word.toList with
  | 'L' :: 'C' :: digits =>
    let pairs := (String.ofList digits).toNat?.getD 1
    (List.replicate pairs [(1, lu), (1, ll)]).flatten
  | a :: b :: digits =>
    match ofLetters? a b with
    | some c => [((String.ofList digits).toNat?.getD 1, c)]
    | none => []
  | _ => []

/-- The first code point of each run, with the run's category. -/
def starts : Array (Nat × Category) :=
  let lengths := runs.flatMap fun line => (line.splitOn " ").flatMap readWord
  (lengths.foldl (fun (acc, at_) (n, c) => (acc.push (at_, c), at_ + n)) (#[], 0)).1

/-- The last run in `table[lo:hi]` that begins at or before `c`. -/
def search (table : Array (Nat × Category)) (c lo hi : Nat) : Category :=
  if _ : hi ≤ lo + 1 then (table[lo]?.map (·.2)).getD cn
  else
    let mid := (lo + hi) / 2
    match table[mid]? with
    | some (start, _) => if start ≤ c then search table c mid hi else search table c lo mid
    | none => search table c lo mid
termination_by hi - lo

/-- The category of a code point. -/
def ofCodePoint (c : Nat) : Category := search starts c 0 starts.size

/-- The category of a character. -/
def of (c : Char) : Category := ofCodePoint c.toNat

/-- Letters of any kind. -/
def isLetter : Category → Bool
  | lu | ll | lt | lm | lo => true
  | _ => false

/-- Marks of any kind. -/
def isMark : Category → Bool
  | mn | mc | me => true
  | _ => false

/-- Separators, controls, format characters and code points without a character. -/
def isInvisible : Category → Bool
  | zs | zl | zp | cc | cf | cs | co | cn => true
  | _ => false

end Category
end BoardBench.Text
