import RoutePlanner.Text.Unicode.RangeTable

/-!
# Canonical decompositions and compositions

A precomposed character decomposes canonically into a base and a mark (or into one other
character); normalization to composed form puts the pieces back together unless the
character is excluded from composition. Two tables (from the Unicode Character Database) cover
the characters that may stand in a domain name; Hangul syllables are left to their
arithmetic rules (`Normalization`).

* `canonicalDecompositions`: tag `P` for a character that composes back, `D` for one that does
  not, each with its one-step decomposition as values, and `Z` for characters without one.
* `primaryComposites`: one entry per pair `(a, b)` that composes, keyed by
  `a * 0x110000 + b`, with the composite as its value.
-/

namespace RoutePlanner.Unicode

/-- The canonical decompositions, as the text of a range table. -/
def canonicalDecompositionText : String := String.join [
  "Ze0P:61,300;1P:61,301;1P:61,302;1P:61,303;1P:61,308;1P:61,30a;1Z1P:63,327;1P:65,300;1P:65,30",
  "1;1P:65,302;1P:65,308;1P:69,300;1P:69,301;1P:69,302;1P:69,308;1Z1P:6e,303;1P:6f,300;1P:6f,30",
  "1;1P:6f,302;1P:6f,303;1P:6f,308;1Z2P:75,300;1P:75,301;1P:75,302;1P:75,308;1P:79,301;1Z1P:79,",
  "308;2P:61,304;2P:61,306;2P:61,328;2P:63,301;2P:63,302;2P:63,307;2P:63,30c;2P:64,30c;2Z2P:65,",
  "304;2P:65,306;2P:65,307;2P:65,328;2P:65,30c;2P:67,302;2P:67,306;2P:67,307;2P:67,327;2P:68,30",
  "2;2Z2P:69,303;2P:69,304;2P:69,306;2P:69,328;2Z4P:6a,302;2P:6b,327;1Z2P:6c,301;2P:6c,327;2P:6",
  "c,30c;4Z2P:6e,301;2P:6e,327;2P:6e,30c;3Z2P:6f,304;2P:6f,306;2P:6f,30b;2Z2P:72,301;2P:72,327;",
  "2P:72,30c;2P:73,301;2P:73,302;2P:73,327;2P:73,30c;2P:74,327;2P:74,30c;2Z2P:75,303;2P:75,304;",
  "2P:75,306;2P:75,30a;2P:75,30b;2P:75,328;2P:77,302;2P:79,302;3P:7a,301;2P:7a,307;2P:7a,30c;2Z",
  "21P:6f,31b;2ZdP:75,31b;4Z1aP:61,30c;2P:69,30c;2P:6f,30c;2P:75,30c;2P:fc,304;2P:fc,301;2P:fc,",
  "30c;2P:fc,300;1Z2P:e4,304;2P:227,304;2P:e6,304;2Z2P:67,30c;2P:6b,30c;2P:6f,328;2P:1eb,304;2P",
  ":292,30c;1P:6a,30c;5P:67,301;4P:6e,300;2P:e5,301;2P:e6,301;2P:f8,301;2P:61,30f;2P:61,311;2P:",
  "65,30f;2P:65,311;2P:69,30f;2P:69,311;2P:6f,30f;2P:6f,311;2P:72,30f;2P:72,311;2P:75,30f;2P:75",
  ",311;2P:73,326;2P:74,326;2Z2P:68,30c;2Z6P:61,307;2P:65,327;2P:f6,304;2P:f5,304;2P:6f,307;2P:",
  "22f,304;2P:79,304;1Z15cP:3ca,301;1cP:3b1,301;1P:3b5,301;1P:3b7,301;1P:3b9,301;1P:3cb,301;1Z1",
  "9P:3b9,308;1P:3c5,308;1P:3bf,301;1P:3c5,301;1P:3c9,301;9Z62P:438,306;1Z16P:435,300;1P:435,30",
  "8;1Z1P:433,301;1Z3P:456,308;1Z4P:43a,301;1P:438,300;1P:443,306;1Z18P:475,30f;2Z49P:436,306;2",
  "ZdP:430,306;2P:430,308;2Z2P:435,306;2Z2P:4d9,308;2P:436,308;2P:437,308;2Z2P:438,304;2P:438,3",
  "08;2P:43e,308;2Z2P:4e9,308;2P:44d,308;2P:443,304;2P:443,308;2P:443,30b;2P:447,308;2Z2P:44b,3",
  "08;2Z127P:627,653;1P:627,654;1P:648,654;1P:627,655;1P:64a,654;1Z99P:6d5,654;1Z1P:6c1,654;1Z1",
  "0P:6d2,654;1Z255P:928,93c;1Z7P:930,93c;1Z2P:933,93c;1Z96P:9c7,9be;1P:9c7,9d7;1Z17bP:b47,b56;",
  "3P:b47,b3e;1P:b47,b57;1Z47P:b92,bd7;1Z35P:bc6,bbe;1P:bc7,bbe;1P:bc6,bd7;1Z7bP:c46,c56;2Z76P:",
  "cbf,cd5;1Z6P:cc6,cd5;1P:cc6,cd6;2P:cc6,cc2;1P:cca,cd5;1Z7eP:d46,d3e;1P:d47,d3e;1P:d46,d57;1Z",
  "8dP:dd9,dca;1Z1P:dd9,dcf;1P:ddc,dca;1P:dd9,ddf;1Z247P:1025,102e;1ZadfP:1b05,1b35;1Z1P:1b07,1",
  "b35;1Z1P:1b09,1b35;1Z1P:1b0b,1b35;1Z1P:1b0d,1b35;1Z3P:1b11,1b35;1Z28P:1b3a,1b35;1Z1P:1b3c,1b",
  "35;1Z2P:1b3e,1b35;1P:1b3f,1b35;1Z1P:1b42,1b35;1Z2bdP:61,325;2P:62,307;2P:62,323;2P:62,331;2P",
  ":e7,301;2P:64,307;2P:64,323;2P:64,331;2P:64,327;2P:64,32d;2P:113,300;2P:113,301;2P:65,32d;2P",
  ":65,330;2P:229,306;2P:66,307;2P:67,304;2P:68,307;2P:68,323;2P:68,308;2P:68,327;2P:68,32e;2P:",
  "69,330;2P:ef,301;2P:6b,301;2P:6b,323;2P:6b,331;2P:6c,323;2P:1e37,304;2P:6c,331;2P:6c,32d;2P:",
  "6d,301;2P:6d,307;2P:6d,323;2P:6e,307;2P:6e,323;2P:6e,331;2P:6e,32d;2P:f5,301;2P:f5,308;2P:14",
  "d,300;2P:14d,301;2P:70,301;2P:70,307;2P:72,307;2P:72,323;2P:1e5b,304;2P:72,331;2P:73,307;2P:",
  "73,323;2P:15b,307;2P:161,307;2P:1e63,307;2P:74,307;2P:74,323;2P:74,331;2P:74,32d;2P:75,324;2",
  "P:75,330;2P:75,32d;2P:169,301;2P:16b,308;2P:76,303;2P:76,323;2P:77,300;2P:77,301;2P:77,308;2",
  "P:77,307;2P:77,323;2P:78,307;2P:78,308;2P:79,307;2P:7a,302;2P:7a,323;2P:7a,331;1P:68,331;1P:",
  "74,308;1P:77,30a;1P:79,30a;3Z5P:61,323;2P:61,309;2P:e2,301;2P:e2,300;2P:e2,309;2P:e2,303;2P:",
  "1ea1,302;2P:103,301;2P:103,300;2P:103,309;2P:103,303;2P:1ea1,306;2P:65,323;2P:65,309;2P:65,3",
  "03;2P:ea,301;2P:ea,300;2P:ea,309;2P:ea,303;2P:1eb9,302;2P:69,309;2P:69,323;2P:6f,323;2P:6f,3",
  "09;2P:f4,301;2P:f4,300;2P:f4,309;2P:f4,303;2P:1ecd,302;2P:1a1,301;2P:1a1,300;2P:1a1,309;2P:1",
  "a1,303;2P:1a1,323;2P:75,323;2P:75,309;2P:1b0,301;2P:1b0,300;2P:1b0,309;2P:1b0,303;2P:1b0,323",
  ";2P:79,300;2P:79,323;2P:79,309;2P:79,303;2Z5P:3b1,313;1P:3b1,314;1P:1f00,300;1P:1f01,300;1P:",
  "1f00,301;1P:1f01,301;1P:1f00,342;1P:1f01,342;9P:3b5,313;1P:3b5,314;1P:1f10,300;1P:1f11,300;1",
  "P:1f10,301;1P:1f11,301;bP:3b7,313;1P:3b7,314;1P:1f20,300;1P:1f21,300;1P:1f20,301;1P:1f21,301",
  ";1P:1f20,342;1P:1f21,342;9P:3b9,313;1P:3b9,314;1P:1f30,300;1P:1f31,300;1P:1f30,301;1P:1f31,3",
  "01;1P:1f30,342;1P:1f31,342;9P:3bf,313;1P:3bf,314;1P:1f40,300;1P:1f41,300;1P:1f40,301;1P:1f41",
  ",301;bP:3c5,313;1P:3c5,314;1P:1f50,300;1P:1f51,300;1P:1f50,301;1P:1f51,301;1P:1f50,342;1P:1f",
  "51,342;9P:3c9,313;1P:3c9,314;1P:1f60,300;1P:1f61,300;1P:1f60,301;1P:1f61,301;1P:1f60,342;1P:",
  "1f61,342;9P:3b1,300;2P:3b5,300;2P:3b7,300;2P:3b9,300;2P:3bf,300;2P:3c5,300;2P:3c9,300;34P:3b",
  "1,306;1P:3b1,304;5P:3b1,342;10P:3b7,342;aP:3b9,306;1P:3b9,304;1P:3ca,300;4P:3b9,342;1P:3ca,3",
  "42;9P:3c5,306;1P:3c5,304;1P:3cb,300;2P:3c1,313;1P:3c1,314;1P:3c5,342;1P:3cb,342;fP:3c9,342;1",
  "6Z18eP:2190,338;1P:2192,338;1Z12P:2194,338;1Z1eP:21d0,338;1P:21d4,338;1P:21d2,338;1Z34P:2203",
  ",338;1Z4P:2208,338;1Z2P:220b,338;1Z17P:2223,338;1Z1P:2225,338;1Z1aP:223c,338;1Z2P:2243,338;1",
  "Z2P:2245,338;1Z1P:2248,338;1Z16P:3d,338;1Z1P:2261,338;1ZaP:224d,338;1P:3c,338;1P:3e,338;1P:2",
  "264,338;1P:2265,338;1Z2P:2272,338;1P:2273,338;1Z2P:2276,338;1P:2277,338;1Z6P:227a,338;1P:227",
  "b,338;1Z2P:2282,338;1P:2283,338;1Z2P:2286,338;1P:2287,338;1Z22P:22a2,338;1P:22a8,338;1P:22a9",
  ",338;1P:22ab,338;1Z30P:227c,338;1P:227d,338;1P:2291,338;1P:2292,338;1Z6P:22b2,338;1P:22b3,33",
  "8;1P:22b4,338;1P:22b5,338;1Zd5eP:304b,3099;1Z1P:304d,3099;1Z1P:304f,3099;1Z1P:3051,3099;1Z1P",
  ":3053,3099;1Z1P:3055,3099;1Z1P:3057,3099;1Z1P:3059,3099;1Z1P:305b,3099;1Z1P:305d,3099;1Z1P:3",
  "05f,3099;1Z1P:3061,3099;1Z2P:3064,3099;1Z1P:3066,3099;1Z1P:3068,3099;1Z6P:306f,3099;1P:306f,",
  "309a;1Z1P:3072,3099;1P:3072,309a;1Z1P:3075,3099;1P:3075,309a;1Z1P:3078,3099;1P:3078,309a;1Z1",
  "P:307b,3099;1P:307b,309a;1Z16P:3046,3099;1Z9P:309d,3099;2ZcP:30ab,3099;1Z1P:30ad,3099;1Z1P:3",
  "0af,3099;1Z1P:30b1,3099;1Z1P:30b3,3099;1Z1P:30b5,3099;1Z1P:30b7,3099;1Z1P:30b9,3099;1Z1P:30b",
  "b,3099;1Z1P:30bd,3099;1Z1P:30bf,3099;1Z1P:30c1,3099;1Z2P:30c4,3099;1Z1P:30c6,3099;1Z1P:30c8,",
  "3099;1Z6P:30cf,3099;1P:30cf,309a;1Z1P:30d2,3099;1P:30d2,309a;1Z1P:30d5,3099;1P:30d5,309a;1Z1",
  "P:30d8,3099;1P:30d8,309a;1Z1P:30db,3099;1P:30db,309a;1Z16P:30a6,3099;1Z2P:30ef,3099;1P:30f0,",
  "3099;1P:30f1,3099;1P:30f2,3099;1Z3P:30fd,3099;7Zdf95P:11099,110ba;1Z1P:1109b,110ba;1ZeP:110a",
  "5,110ba;1Z82P:11131,11127;1P:11132,11127;1Z21bP:11347,1133e;1P:11347,11357;1Z16eP:114b9,114b",
  "a;1P:114b9,114b0;1Z1P:114b9,114bd;1ZfbP:115b8,115af;1P:115b9,115af;1Z37cP:11935,11930;3Z"]

/-- The canonical decompositions, as a range table. -/
def canonicalDecompositions : RangeTable := RangeTable.decode canonicalDecompositionText

/-- **The one-step canonical decomposition of a character**, if it has one. -/
def decompositionOf? (c : Char) : Option (List Char) :=
  match canonicalDecompositions.find? c.toNat with
  | some e =>
    if (e.tag = 'P' || e.tag = 'D') && e.start = c.toNat then some (e.values.map Char.ofNat)
    else none
  | none => none

/-- The pairs that compose, as the text of a range table. -/
def primaryCompositeText : String := String.join [
  "3fc0338P:226e;110000P:2260;110000P:226f;252ffc8P:e0;1P:e1;1P:e2;1P:e3;1P:101;2P:103;1P:227;1",
  "P:e4;1P:1ea3;1P:e5;2P:1ce;3P:201;2P:203;12P:1ea1;2P:1e01;3P:105;10ffdfP:1e03;1cP:1e05;eP:1e0",
  "7;10ffd0P:107;1P:109;5P:10b;5P:10d;1bP:e7;10ffe0P:1e0b;5P:10f;17P:1e0d;4P:1e11;6P:1e13;4P:1e",
  "0f;10ffcfP:e8;1P:e9;1P:ea;1P:1ebd;1P:113;2P:115;1P:117;1P:eb;1P:1ebb;3P:11b;3P:205;2P:207;12",
  "P:1eb9;4P:229;1P:119;5P:1e19;3P:1e1b;10ffd7P:1e1f;10fffaP:1f5;1P:11d;2P:1e21;2P:11f;1P:121;5",
  "P:1e7;1bP:123;10ffdbP:125;5P:1e23;1P:1e27;4P:21f;17P:1e25;4P:1e29;7P:1e2b;3P:1e96;10ffcfP:ec",
  ";1P:ed;1P:ee;1P:129;1P:12b;2P:12d;2P:ef;1P:1ec9;3P:1d0;3P:209;2P:20b;12P:1ecb;5P:12f;8P:1e2d",
  ";10ffd2P:135;aP:1f0;10fff5P:1e31;bP:1e9;17P:1e33;4P:137;aP:1e35;10ffd0P:13a;bP:13e;17P:1e37;",
  "4P:13c;6P:1e3d;4P:1e3b;10ffd0P:1e3f;6P:1e41;1cP:1e43;10ffddP:1f9;1P:144;2P:f1;4P:1e45;5P:148",
  ";17P:1e47;4P:146;6P:1e4b;4P:1e49;10ffcfP:f2;1P:f3;1P:f4;1P:f5;1P:14d;2P:14f;1P:22f;1P:f6;1P:",
  "1ecf;2P:151;1P:1d2;3P:20d;2P:20f;aP:1a1;8P:1ecd;5P:1eb;10ffd9P:1e55;6P:1e57;21fffaP:155;6P:1",
  "e59;5P:159;3P:211;2P:213;12P:1e5b;4P:157;aP:1e5f;10ffd0P:15b;1P:15d;5P:1e61;5P:161;17P:1e63;",
  "3P:219;1P:15f;10ffe0P:1e6b;1P:1e97;4P:165;17P:1e6d;3P:21b;1P:163;6P:1e71;4P:1e6f;10ffcfP:f9;",
  "1P:fa;1P:fb;1P:169;1P:16b;2P:16d;2P:fc;1P:1ee7;1P:16f;1P:171;1P:1d4;3P:215;2P:217;aP:1b0;8P:",
  "1ee5;1P:1e73;4P:173;5P:1e77;3P:1e75;10ffd3P:1e7d;20P:1e7f;10ffddP:1e81;1P:1e83;1P:175;5P:1e8",
  "7;1P:1e85;2P:1e98;19P:1e89;10ffe4P:1e8b;1P:1e8d;10fff8P:1ef3;1P:fd;1P:177;1P:1ef9;1P:233;3P:",
  "1e8f;1P:ff;1P:1ef7;1P:1e99;19P:1ef5;10ffdeP:17a;1P:1e91;5P:17c;5P:17e;17P:1e93;eP:1e95;6e7ff",
  "cfP:1ea7;1P:1ea5;2P:1eab;6P:1ea9;21fffbP:1df;10fffdP:1fb;110000P:1fd;3P:1e3;10fffdP:1e09;32f",
  "fffP:1ec1;1P:1ebf;2P:1ec5;6P:1ec3;54fff8P:1e2f;54ffffP:1ed3;1P:1ed1;2P:1ed7;6P:1ed5;10fff8P:",
  "1e4d;3P:22d;4P:1e4f;10fffcP:22b;21fffdP:1ff;43ffffP:1dc;1P:1d8;3P:1d6;8P:1da;76fff4P:1eb1;1P",
  ":1eaf;2P:1eb5;6P:1eb3;10ffff7P:1e15;1P:1e17;3d9ffffP:1e51;1P:1e53;ee0006P:1e65;660000P:1e67;",
  "87fffaP:1e79;220007P:1e7b;395fff8P:1edd;1P:1edb;2P:1ee1;6P:1edf;1aP:1ee3;feffddP:1eeb;1P:1ee",
  "9;2P:1eef;6P:1eed;1aP:1ef1;3eaffe1P:1ed;3fc0000P:1e1;220002P:1e1d;65fffeP:231;6930008P:1ef;1",
  "30efff4P:1f70;1P:3ac;3P:1fb1;2P:1fb0;dP:1f00;1P:1f01;2eP:1fb6;43ffbeP:1f72;1P:3ad;12P:1f10;1",
  "P:1f11;21ffecP:1f74;1P:3ae;12P:1f20;1P:1f21;2eP:1fc6;21ffbeP:1f76;1P:3af;3P:1fd1;2P:1fd0;2P:",
  "3ca;bP:1f30;1P:1f31;2eP:1fd6;65ffbeP:1f78;1P:3cc;12P:1f40;1P:1f41;21ffffP:1fe4;1P:1fe5;43ffe",
  "cP:1f7a;1P:3cd;3P:1fe1;2P:1fe0;2P:3cb;bP:1f50;1P:1f51;2eP:1fe6;43ffbeP:1f7c;1P:3ce;12P:1f60;",
  "1P:1f61;2eP:1ff6;10ffbeP:1fd2;1P:390;41P:1fd7;10ffbeP:1fe2;1P:3b0;41P:1fe7;6b4ffc4P:4d1;2P:4",
  "d3;32fff9P:453;21ffffP:450;6P:4d7;2P:451;10fffeP:4c2;2P:4dd;110000P:4df;10fff8P:45d;4P:4e3;2",
  "P:439;2P:4e5;21fff9P:45c;440007P:4e7;54fffcP:4ef;2P:45e;2P:4f1;3P:4f3;43fffdP:4f5;440000P:4f",
  "9;220000P:4ed;990000P:457;20f0007P:477;6a3fff9P:4db;1100000P:4eb;151e034bP:622;1P:623;1P:625",
  ";230ffffP:624;220000P:626;7e70000P:6c2;1210000P:6d3;330000P:6c0;278302e8P:929;880000P:931;33",
  "0000P:934;9d40082P:9cb;19P:9cc;19800167P:b4b;18P:b48;1P:b4c;4fb0080P:b94;373ffe7P:bca;19P:bc",
  "c;10ffe7P:bcb;86f0098P:c48;809007fP:cc0;76ffedP:cca;13P:cc7;1P:cc8;43ffffP:ccb;83c0069P:d4a;",
  "19P:d4c;10ffe7P:d4b;9b2008cP:dda;5P:ddc;10P:dde;32ffebP:ddd;26d90264P:1026;b8e00b07P:1b06;22",
  "0000P:1b08;220000P:1b0a;220000P:1b0c;220000P:1b0e;440000P:1b12;2b90000P:1b3b;220000P:1b3d;22",
  "0000P:1b40;110000P:1b41;330000P:1b43;3244e7cfP:1e39;2640000P:1e5d;880003P:1e69;41dfffbP:1ead",
  ";4P:1eb7;197fffcP:1ec7;1540000P:1ed9;362fffeP:1f02;1P:1f04;41P:1f06;10ffbeP:1f03;1P:1f05;41P",
  ":1f07;feffbeP:1f12;1P:1f14;10ffffP:1f13;1P:1f15;feffffP:1f22;1P:1f24;41P:1f26;10ffbeP:1f23;1",
  "P:1f25;41P:1f27;feffbeP:1f32;1P:1f34;41P:1f36;10ffbeP:1f33;1P:1f35;41P:1f37;feffbeP:1f42;1P:",
  "1f44;10ffffP:1f43;1P:1f45;feffffP:1f52;1P:1f54;41P:1f56;10ffbeP:1f53;1P:1f55;41P:1f57;feffbe",
  "P:1f62;1P:1f64;41P:1f66;10ffbeP:1f63;1P:1f65;41P:1f67;251efff6P:219a;220000P:219b;220000P:21",
  "ae;3fc0000P:21cd;220000P:21cf;220000P:21ce;31f0000P:2204;550000P:2209;330000P:220c;1980000P:",
  "2224;220000P:2226;1870000P:2241;770000P:2244;220000P:2247;330000P:2249;550000P:226d;1540000P",
  ":2262;330000P:2270;110000P:2271;dd0000P:2274;110000P:2275;330000P:2278;110000P:2279;330000P:",
  "2280;110000P:2281;110000P:22e0;110000P:22e1;550000P:2284;110000P:2285;330000P:2288;110000P:2",
  "289;aa0000P:22e2;110000P:22e3;1100000P:22ac;660000P:22ad;110000P:22ae;220000P:22af;770000P:2",
  "2ea;110000P:22eb;110000P:22ec;110000P:22ed;e6a12d61P:3094;550000P:304c;220000P:304e;220000P:",
  "3050;220000P:3052;220000P:3054;220000P:3056;220000P:3058;220000P:305a;220000P:305c;220000P:3",
  "05e;220000P:3060;220000P:3062;330000P:3065;220000P:3067;220000P:3069;770000P:3070;1P:3071;32",
  "ffffP:3073;1P:3074;32ffffP:3076;1P:3077;32ffffP:3079;1P:307a;32ffffP:307c;1P:307d;241ffffP:3",
  "09e;990000P:30f4;550000P:30ac;220000P:30ae;220000P:30b0;220000P:30b2;220000P:30b4;220000P:30",
  "b6;220000P:30b8;220000P:30ba;220000P:30bc;220000P:30be;220000P:30c0;220000P:30c2;330000P:30c",
  "5;220000P:30c7;220000P:30c9;770000P:30d0;1P:30d1;32ffffP:30d3;1P:30d4;32ffffP:30d6;1P:30d7;3",
  "2ffffP:30d9;1P:30da;32ffffP:30dc;1P:30dd;153ffffP:30f7;110000P:30f8;110000P:30f9;110000P:30f",
  "a;bb0000P:30fe;ed95ce021P:1109a;220000P:1109c;aa0000P:110ab;94c006dP:1112e;110000P:1112f;236",
  "50217P:1134b;19P:1134c;18920159P:114bc;aP:114bb;3P:114be;10ef00f2P:115ba;110000P:115bb;3b3c0",
  "381P:11938;"]

/-- The pairs that compose, as a range table keyed by pair. -/
def primaryComposites : RangeTable := RangeTable.decode primaryCompositeText

/-- **The character that a pair composes to**, if any (Hangul apart). -/
def compositeOf? (a b : Char) : Option Char :=
  (primaryComposites.entryAt? (a.toNat * 0x110000 + b.toNat)).bind fun e => e.values.head?.map Char.ofNat

end RoutePlanner.Unicode
