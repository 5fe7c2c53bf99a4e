import RoutePlanner.Text.Unicode.RangeTable

/-!
# The mapping of domain names

Before a domain name is checked and written in ASCII, each of its characters is mapped by the
table of Unicode Technical Standard #46 (Unicode 17.0), read with non-transitional processing
and without the ASCII restrictions of STD 3:

* a **valid** character stays as it is (the four deviation characters `ß`, `ς`, ZWJ and
  ZWNJ among them);
* a **mapped** character is replaced by its mapping: capitals by small letters, compatibility
  forms by their plain forms (`ﬁ` by `fi`, `①` by `1`, `™` by `tm`), and an **ignored** one
  (a soft hyphen, a variation selector) by nothing;
* a **disallowed** character makes the name invalid.

The table is a `RangeTable` whose tags are `V` (valid), `M` (mapped, its values being the
code points of the mapping) and `X` (disallowed).
-/

namespace RoutePlanner.Unicode

/-- How the mapping of domain names treats a character. -/
inductive IdnaStatus where
  | valid
  /-- replaced by these characters, none for an ignored one -/
  | mapped (replacement : List Char)
  | disallowed
  deriving DecidableEq, Repr

/-- The mapping of domain names, as the text of a range table. -/
def idnaMappingText : String := String.join [
  "V41M:61;1M:62;1M:63;1M:64;1M:65;1M:66;1M:67;1M:68;1M:69;1M:6a;1M:6b;1M:6c;1M:6d;1M:6e;1M:6f;",
  "1M:70;1M:71;1M:72;1M:73;1M:74;1M:75;1M:76;1M:77;1M:78;1M:79;1M:7a;1V25X20M:20;1V7M:20,308;1V",
  "1M:61;1V2M:;1V1M:20,304;1V2M:32;1M:33;1M:20,301;1M:3bc;1V2M:20,327;1M:31;1M:6f;1V1M:31,2044,",
  "34;1M:31,2044,32;1M:33,2044,34;1V1M:e0;1M:e1;1M:e2;1M:e3;1M:e4;1M:e5;1M:e6;1M:e7;1M:e8;1M:e9",
  ";1M:ea;1M:eb;1M:ec;1M:ed;1M:ee;1M:ef;1M:f0;1M:f1;1M:f2;1M:f3;1M:f4;1M:f5;1M:f6;1V1M:f8;1M:f9",
  ";1M:fa;1M:fb;1M:fc;1M:fd;1M:fe;1V21M:101;1V1M:103;1V1M:105;1V1M:107;1V1M:109;1V1M:10b;1V1M:1",
  "0d;1V1M:10f;1V1M:111;1V1M:113;1V1M:115;1V1M:117;1V1M:119;1V1M:11b;1V1M:11d;1V1M:11f;1V1M:121",
  ";1V1M:123;1V1M:125;1V1M:127;1V1M:129;1V1M:12b;1V1M:12d;1V1M:12f;1V1M:69,307;1V1M:69,6a;2M:13",
  "5;1V1M:137;1V2M:13a;1V1M:13c;1V1M:13e;1V1M:6c,b7;2M:142;1V1M:144;1V1M:146;1V1M:148;1V1M:2bc,",
  "6e;1M:14b;1V1M:14d;1V1M:14f;1V1M:151;1V1M:153;1V1M:155;1V1M:157;1V1M:159;1V1M:15b;1V1M:15d;1",
  "V1M:15f;1V1M:161;1V1M:163;1V1M:165;1V1M:167;1V1M:169;1V1M:16b;1V1M:16d;1V1M:16f;1V1M:171;1V1",
  "M:173;1V1M:175;1V1M:177;1V1M:ff;1M:17a;1V1M:17c;1V1M:17e;1V1M:73;1V1M:253;1M:183;1V1M:185;1V",
  "1M:254;1M:188;1V1M:256;1M:257;1M:18c;1V2M:1dd;1M:259;1M:25b;1M:192;1V1M:260;1M:263;1V1M:269;",
  "1M:268;1M:199;1V3M:26f;1M:272;1V1M:275;1M:1a1;1V1M:1a3;1V1M:1a5;1V1M:280;1M:1a8;1V1M:283;1V2",
  "M:1ad;1V1M:288;1M:1b0;1V1M:28a;1M:28b;1M:1b4;1V1M:1b6;1V1M:292;1M:1b9;1V3M:1bd;1V7M:64,17e;3",
  "M:6c,6a;3M:6e,6a;3M:1ce;1V1M:1d0;1V1M:1d2;1V1M:1d4;1V1M:1d6;1V1M:1d8;1V1M:1da;1V1M:1dc;1V2M:",
  "1df;1V1M:1e1;1V1M:1e3;1V1M:1e5;1V1M:1e7;1V1M:1e9;1V1M:1eb;1V1M:1ed;1V1M:1ef;1V2M:64,7a;3M:1f",
  "5;1V1M:195;1M:1bf;1M:1f9;1V1M:1fb;1V1M:1fd;1V1M:1ff;1V1M:201;1V1M:203;1V1M:205;1V1M:207;1V1M",
  ":209;1V1M:20b;1V1M:20d;1V1M:20f;1V1M:211;1V1M:213;1V1M:215;1V1M:217;1V1M:219;1V1M:21b;1V1M:2",
  "1d;1V1M:21f;1V1M:19e;1V1M:223;1V1M:225;1V1M:227;1V1M:229;1V1M:22b;1V1M:22d;1V1M:22f;1V1M:231",
  ";1V1M:233;1V7M:2c65;1M:23c;1V1M:19a;1M:2c66;1V2M:242;1V1M:180;1M:289;1M:28c;1M:247;1V1M:249;",
  "1V1M:24b;1V1M:24d;1V1M:24f;1V61M:68;1M:266;1M:6a;1M:72;1M:279;1M:27b;1M:281;1M:77;1M:79;1V1f",
  "M:20,306;1M:20,307;1M:20,30a;1M:20,328;1M:20,303;1M:20,30b;1V2M:263;1M:6c;1M:73;1M:78;1M:295",
  ";1V5bM:300;1M:301;1V1M:313;1M:308,301;1M:3b9;1V9M:;1V20M:371;1V1M:373;1V1M:2b9;1V1M:377;1V1X",
  "2M:20,3b9;1V3M:3b;1M:3f3;1X4M:20,301;1M:20,308,301;1M:3ac;1M:b7;1M:3ad;1M:3ae;1M:3af;1X1M:3c",
  "c;1X1M:3cd;1M:3ce;1V1M:3b1;1M:3b2;1M:3b3;1M:3b4;1M:3b5;1M:3b6;1M:3b7;1M:3b8;1M:3b9;1M:3ba;1M",
  ":3bb;1M:3bc;1M:3bd;1M:3be;1M:3bf;1M:3c0;1M:3c1;1X1M:3c3;1M:3c4;1M:3c5;1M:3c6;1M:3c7;1M:3c8;1",
  "M:3c9;1M:3ca;1M:3cb;1V23M:3d7;1M:3b2;1M:3b8;1M:3c5;1M:3cd;1M:3cb;1M:3c6;1M:3c0;1V1M:3d9;1V1M",
  ":3db;1V1M:3dd;1V1M:3df;1V1M:3e1;1V1M:3e3;1V1M:3e5;1V1M:3e7;1V1M:3e9;1V1M:3eb;1V1M:3ed;1V1M:3",
  "ef;1V1M:3ba;1M:3c1;1M:3c3;1V1M:3b8;1M:3b5;1V1M:3f8;1V1M:3c3;1M:3fb;1V2M:37b;1M:37c;1M:37d;1M",
  ":450;1M:451;1M:452;1M:453;1M:454;1M:455;1M:456;1M:457;1M:458;1M:459;1M:45a;1M:45b;1M:45c;1M:",
  "45d;1M:45e;1M:45f;1M:430;1M:431;1M:432;1M:433;1M:434;1M:435;1M:436;1M:437;1M:438;1M:439;1M:4",
  "3a;1M:43b;1M:43c;1M:43d;1M:43e;1M:43f;1M:440;1M:441;1M:442;1M:443;1M:444;1M:445;1M:446;1M:44",
  "7;1M:448;1M:449;1M:44a;1M:44b;1M:44c;1M:44d;1M:44e;1M:44f;1V30M:461;1V1M:463;1V1M:465;1V1M:4",
  "67;1V1M:469;1V1M:46b;1V1M:46d;1V1M:46f;1V1M:471;1V1M:473;1V1M:475;1V1M:477;1V1M:479;1V1M:47b",
  ";1V1M:47d;1V1M:47f;1V1M:481;1V9M:48b;1V1M:48d;1V1M:48f;1V1M:491;1V1M:493;1V1M:495;1V1M:497;1",
  "V1M:499;1V1M:49b;1V1M:49d;1V1M:49f;1V1M:4a1;1V1M:4a3;1V1M:4a5;1V1M:4a7;1V1M:4a9;1V1M:4ab;1V1",
  "M:4ad;1V1M:4af;1V1M:4b1;1V1M:4b3;1V1M:4b5;1V1M:4b7;1V1M:4b9;1V1M:4bb;1V1M:4bd;1V1M:4bf;1V1M:",
  "4cf;1M:4c2;1V1M:4c4;1V1M:4c6;1V1M:4c8;1V1M:4ca;1V1M:4cc;1V1M:4ce;1V2M:4d1;1V1M:4d3;1V1M:4d5;",
  "1V1M:4d7;1V1M:4d9;1V1M:4db;1V1M:4dd;1V1M:4df;1V1M:4e1;1V1M:4e3;1V1M:4e5;1V1M:4e7;1V1M:4e9;1V",
  "1M:4eb;1V1M:4ed;1V1M:4ef;1V1M:4f1;1V1M:4f3;1V1M:4f5;1V1M:4f7;1V1M:4f9;1V1M:4fb;1V1M:4fd;1V1M",
  ":4ff;1V1M:501;1V1M:503;1V1M:505;1V1M:507;1V1M:509;1V1M:50b;1V1M:50d;1V1M:50f;1V1M:511;1V1M:5",
  "13;1V1M:515;1V1M:517;1V1M:519;1V1M:51b;1V1M:51d;1V1M:51f;1V1M:521;1V1M:523;1V1M:525;1V1M:527",
  ";1V1M:529;1V1M:52b;1V1M:52d;1V1M:52f;1V1X1M:561;1M:562;1M:563;1M:564;1M:565;1M:566;1M:567;1M",
  ":568;1M:569;1M:56a;1M:56b;1M:56c;1M:56d;1M:56e;1M:56f;1M:570;1M:571;1M:572;1M:573;1M:574;1M:",
  "575;1M:576;1M:577;1M:578;1M:579;1M:57a;1M:57b;1M:57c;1M:57d;1M:57e;1M:57f;1M:580;1M:581;1M:5",
  "82;1M:583;1M:584;1M:585;1M:586;1X2V2eM:565,582;1V3X2V3X1V37X8V1bX4V6X11V16X1V58M:627,674;1M:",
  "648,674;1M:6c7,674;1M:64a,674;1V64X1V30X2V3bX2V65XeV3bX2V31X2VfX1V1cX2V1X1VbX5V20X7V4bX1V75M",
  ":915,93c;1M:916,93c;1M:917,93c;1M:91c,93c;1M:921,93c;1M:922,93c;1M:92b,93c;1M:92f,93c;1V24X1",
  "V8X2V2X2V16X1V7X1V1X3V4X2V9X2V2X2V4X8V1X4M:9a1,9bc;1M:9a2,9bc;1X1M:9af,9bc;1V4X2V19X2V3X1V6X",
  "4V2X2V16X1V7X1V1M:a32,a3c;1X1V1M:a38,a3c;1X1V2X2V1X1V5X4V2X2V3X3V1X7M:a16,a3c;1M:a17,a3c;1M:",
  "a1c,a3c;1V1X1M:a2b,a3c;1X7V11XaV3X1V9X1V3X1V16X1V7X1V2X1V5X2VaX1V3X1V3X2V1XfV4X2VcX7V7X1V3X1",
  "V8X2V2X2V16X1V7X1V2X1V5X2V9X2V2X2V3X7V3X4M:b21,b3c;1M:b22,b3c;1X1V5X2V12XaV2X1V6X3V3X1V4X3V2",
  "X1V1X1V2X3V2X3V3X3VcX4V5X3V3X1V4X2V1X6V1XeV15X5VdX1V3X1V17X1V10X2V9X1V3X1V4X7V2X1V3X1V2X2V4X",
  "2VaX7V16X1V3X1V17X1VaX1V5X2V9X1V3X1V4X7V2X5V3X1V4X2VaX1V3XcVdX1V3X1V33X1V3X1V6X4V10X2V1aX1V3",
  "X1V12X3V18X1V9X1V1X2V7X3V1X4V6X1V1X1V8X6VaX2V3XcV32M:e4d,e32;1V7X4V1dX25V2X1V1X1V5X1V18X1V1X",
  "1VcM:ecd,eb2;1VaX2V5X1V1X1V7X1VaX2M:eab,e99;1M:eab,ea1;1V2X20VcM:f0b;1V36M:f42,fb7;1V4X1V4M:",
  "f4c,fb7;1V4M:f51,fb7;1V4M:f56,fb7;1V4M:f5b,fb7;1VcM:f40,fb5;1V3X4V2M:f71,f72;1V1M:f71,f74;1M",
  ":fb2,f80;1M:fb2,f71,f80;1M:fb3,f80;1M:fb3,f71,f80;1V7M:f71,f80;1V11M:f92,fb7;1V4X1V4M:f9c,fb",
  "7;1V4M:fa1,fb7;1V4M:fa6,fb7;1V4M:fab,fb7;1VcM:f90,fb5;1V3X1VfX1VdX25Va0M:2d00;1M:2d01;1M:2d0",
  "2;1M:2d03;1M:2d04;1M:2d05;1M:2d06;1M:2d07;1M:2d08;1M:2d09;1M:2d0a;1M:2d0b;1M:2d0c;1M:2d0d;1M",
  ":2d0e;1M:2d0f;1M:2d10;1M:2d11;1M:2d12;1M:2d13;1M:2d14;1M:2d15;1M:2d16;1M:2d17;1M:2d18;1M:2d1",
  "9;1M:2d1a;1M:2d1b;1M:2d1c;1M:2d1d;1M:2d1e;1M:2d1f;1M:2d20;1M:2d21;1M:2d22;1M:2d23;1M:2d24;1M",
  ":2d25;1X1M:2d27;1X5M:2d2d;1X2V2cM:10dc;1V62M:;2Ve8X1V4X2V7X1V1X1V4X2V29X1V4X2V21X1V4X2V7X1V1",
  "X1V4X2VfX1V39X1V4X2V43X2V20X3V1aX6V56X2M:13f0;1M:13f1;1M:13f2;1M:13f3;1M:13f4;1M:13f5;1X2V28",
  "0X1V1cX3V59X7V16X9V18X9V14XcVdX1V3X1V2XcV34M:;2V28X2VaX6VaX6VbM:;5VaX6V59X7V2bX5V46XaV1fX1Vc",
  "X4VcX4V1X3V2aX2V5XbV2cX4V1aX6VbX3V3eX2V41X1V1dX2VbX6VaX6VeX2V2eX2VcX14V4dX1Va6X8V3cX3VfX3V33",
  "M:432;1M:434;1M:43e;1M:441;1M:442;2M:44a;1M:463;1M:a64b;1M:1c8a;1V1X5M:10d0;1M:10d1;1M:10d2;",
  "1M:10d3;1M:10d4;1M:10d5;1M:10d6;1M:10d7;1M:10d8;1M:10d9;1M:10da;1M:10db;1M:10dc;1M:10dd;1M:1",
  "0de;1M:10df;1M:10e0;1M:10e1;1M:10e2;1M:10e3;1M:10e4;1M:10e5;1M:10e6;1M:10e7;1M:10e8;1M:10e9;",
  "1M:10ea;1M:10eb;1M:10ec;1M:10ed;1M:10ee;1M:10ef;1M:10f0;1M:10f1;1M:10f2;1M:10f3;1M:10f4;1M:1",
  "0f5;1M:10f6;1M:10f7;1M:10f8;1M:10f9;1M:10fa;1X2M:10fd;1M:10fe;1M:10ff;1V8X8V2bX5V2cM:61;1M:e",
  "6;1M:62;1V1M:64;1M:65;1M:1dd;1M:67;1M:68;1M:69;1M:6a;1M:6b;1M:6c;1M:6d;1M:6e;1V1M:6f;1M:223;",
  "1M:70;1M:72;1M:74;1M:75;1M:77;1M:61;1M:250;1M:251;1M:1d02;1M:62;1M:64;1M:65;1M:259;1M:25b;1M",
  ":25c;1M:67;1V1M:6b;1M:6d;1M:14b;1M:6f;1M:254;1M:1d16;1M:1d17;1M:70;1M:74;1M:75;1M:1d1d;1M:26",
  "f;1M:76;1M:1d25;1M:3b2;1M:3b3;1M:3b4;1M:3c6;1M:3c7;1M:69;1M:72;1M:75;1M:76;1M:3b2;1M:3b3;1M:",
  "3c1;1M:3c6;1M:3c7;1VdM:43d;1V22M:252;1M:63;1M:255;1M:f0;1M:25c;1M:66;1M:25f;1M:261;1M:265;1M",
  ":268;1M:269;1M:26a;1M:1d7b;1M:29d;1M:26d;1M:1d85;1M:29f;1M:271;1M:270;1M:272;1M:273;1M:274;1",
  "M:275;1M:278;1M:282;1M:283;1M:1ab;1M:289;1M:28a;1M:1d1c;1M:28b;1M:28c;1M:7a;1M:290;1M:291;1M",
  ":292;1M:3b8;1V40M:1e01;1V1M:1e03;1V1M:1e05;1V1M:1e07;1V1M:1e09;1V1M:1e0b;1V1M:1e0d;1V1M:1e0f",
  ";1V1M:1e11;1V1M:1e13;1V1M:1e15;1V1M:1e17;1V1M:1e19;1V1M:1e1b;1V1M:1e1d;1V1M:1e1f;1V1M:1e21;1",
  "V1M:1e23;1V1M:1e25;1V1M:1e27;1V1M:1e29;1V1M:1e2b;1V1M:1e2d;1V1M:1e2f;1V1M:1e31;1V1M:1e33;1V1",
  "M:1e35;1V1M:1e37;1V1M:1e39;1V1M:1e3b;1V1M:1e3d;1V1M:1e3f;1V1M:1e41;1V1M:1e43;1V1M:1e45;1V1M:",
  "1e47;1V1M:1e49;1V1M:1e4b;1V1M:1e4d;1V1M:1e4f;1V1M:1e51;1V1M:1e53;1V1M:1e55;1V1M:1e57;1V1M:1e",
  "59;1V1M:1e5b;1V1M:1e5d;1V1M:1e5f;1V1M:1e61;1V1M:1e63;1V1M:1e65;1V1M:1e67;1V1M:1e69;1V1M:1e6b",
  ";1V1M:1e6d;1V1M:1e6f;1V1M:1e71;1V1M:1e73;1V1M:1e75;1V1M:1e77;1V1M:1e79;1V1M:1e7b;1V1M:1e7d;1",
  "V1M:1e7f;1V1M:1e81;1V1M:1e83;1V1M:1e85;1V1M:1e87;1V1M:1e89;1V1M:1e8b;1V1M:1e8d;1V1M:1e8f;1V1",
  "M:1e91;1V1M:1e93;1V1M:1e95;1V5M:61,2be;1M:1e61;1V2M:df;1V1M:1ea1;1V1M:1ea3;1V1M:1ea5;1V1M:1e",
  "a7;1V1M:1ea9;1V1M:1eab;1V1M:1ead;1V1M:1eaf;1V1M:1eb1;1V1M:1eb3;1V1M:1eb5;1V1M:1eb7;1V1M:1eb9",
  ";1V1M:1ebb;1V1M:1ebd;1V1M:1ebf;1V1M:1ec1;1V1M:1ec3;1V1M:1ec5;1V1M:1ec7;1V1M:1ec9;1V1M:1ecb;1",
  "V1M:1ecd;1V1M:1ecf;1V1M:1ed1;1V1M:1ed3;1V1M:1ed5;1V1M:1ed7;1V1M:1ed9;1V1M:1edb;1V1M:1edd;1V1",
  "M:1edf;1V1M:1ee1;1V1M:1ee3;1V1M:1ee5;1V1M:1ee7;1V1M:1ee9;1V1M:1eeb;1V1M:1eed;1V1M:1eef;1V1M:",
  "1ef1;1V1M:1ef3;1V1M:1ef5;1V1M:1ef7;1V1M:1ef9;1V1M:1efb;1V1M:1efd;1V1M:1eff;1V9M:1f00;1M:1f01",
  ";1M:1f02;1M:1f03;1M:1f04;1M:1f05;1M:1f06;1M:1f07;1V6X2M:1f10;1M:1f11;1M:1f12;1M:1f13;1M:1f14",
  ";1M:1f15;1X2V8M:1f20;1M:1f21;1M:1f22;1M:1f23;1M:1f24;1M:1f25;1M:1f26;1M:1f27;1V8M:1f30;1M:1f",
  "31;1M:1f32;1M:1f33;1M:1f34;1M:1f35;1M:1f36;1M:1f37;1V6X2M:1f40;1M:1f41;1M:1f42;1M:1f43;1M:1f",
  "44;1M:1f45;1X2V8X1M:1f51;1X1M:1f53;1X1M:1f55;1X1M:1f57;1V8M:1f60;1M:1f61;1M:1f62;1M:1f63;1M:",
  "1f64;1M:1f65;1M:1f66;1M:1f67;1V1M:3ac;1V1M:3ad;1V1M:3ae;1V1M:3af;1V1M:3cc;1V1M:3cd;1V1M:3ce;",
  "1X2M:1f00,3b9;1M:1f01,3b9;1M:1f02,3b9;1M:1f03,3b9;1M:1f04,3b9;1M:1f05,3b9;1M:1f06,3b9;1M:1f0",
  "7,3b9;1M:1f00,3b9;1M:1f01,3b9;1M:1f02,3b9;1M:1f03,3b9;1M:1f04,3b9;1M:1f05,3b9;1M:1f06,3b9;1M",
  ":1f07,3b9;1M:1f20,3b9;1M:1f21,3b9;1M:1f22,3b9;1M:1f23,3b9;1M:1f24,3b9;1M:1f25,3b9;1M:1f26,3b",
  "9;1M:1f27,3b9;1M:1f20,3b9;1M:1f21,3b9;1M:1f22,3b9;1M:1f23,3b9;1M:1f24,3b9;1M:1f25,3b9;1M:1f2",
  "6,3b9;1M:1f27,3b9;1M:1f60,3b9;1M:1f61,3b9;1M:1f62,3b9;1M:1f63,3b9;1M:1f64,3b9;1M:1f65,3b9;1M",
  ":1f66,3b9;1M:1f67,3b9;1M:1f60,3b9;1M:1f61,3b9;1M:1f62,3b9;1M:1f63,3b9;1M:1f64,3b9;1M:1f65,3b",
  "9;1M:1f66,3b9;1M:1f67,3b9;1V2M:1f70,3b9;1M:3b1,3b9;1M:3ac,3b9;1X1V1M:1fb6,3b9;1M:1fb0;1M:1fb",
  "1;1M:1f70;1M:3ac;1M:3b1,3b9;1M:20,313;1M:3b9;1M:20,313;1M:20,342;1M:20,308,342;1M:1f74,3b9;1",
  "M:3b7,3b9;1M:3ae,3b9;1X1V1M:1fc6,3b9;1M:1f72;1M:3ad;1M:1f74;1M:3ae;1M:3b7,3b9;1M:20,313,300;",
  "1M:20,313,301;1M:20,313,342;1V3M:390;1X2V2M:1fd0;1M:1fd1;1M:1f76;1M:3af;1X1M:20,314,300;1M:2",
  "0,314,301;1M:20,314,342;1V3M:3b0;1V4M:1fe0;1M:1fe1;1M:1f7a;1M:3cd;1M:1fe5;1M:20,308,300;1M:2",
  "0,308,301;1M:60;1X2M:1f7c,3b9;1M:3c9,3b9;1M:3ce,3b9;1X1V1M:1ff6,3b9;1M:1f78;1M:3cc;1M:1f7c;1",
  "M:3ce;1M:3c9,3b9;1M:20,301;1M:20,314;1X1M:20;bM:;1V2X2V1M:2010;1V5M:20,333;1VcX3V1X7M:20;1V3",
  "M:2032,2032;1M:2032,2032,2032;1V1M:2035,2035;1M:2035,2035,2035;1V4M:21,21;1V1M:20,305;1V8M:3",
  "f,3f;1M:3f,21;1M:21,3f;1VdM:2032,2032,2032,2032;1V7M:20;1M:;5X5M:;6M:30;1M:69;1X2M:34;1M:35;",
  "1M:36;1M:37;1M:38;1M:39;1M:2b;1M:2212;1M:3d;1M:28;1M:29;1M:6e;1M:30;1M:31;1M:32;1M:33;1M:34;",
  "1M:35;1M:36;1M:37;1M:38;1M:39;1M:2b;1M:2212;1M:3d;1M:28;1M:29;1X1M:61;1M:65;1M:6f;1M:78;1M:2",
  "59;1M:68;1M:6b;1M:6c;1M:6d;1M:6e;1M:70;1M:73;1M:74;1X3V8M:72,73;1V19XeV21XfM:61,2f,63;1M:61,",
  "2f,73;1M:63;1M:b0,63;1V1M:63,2f,6f;1M:63,2f,75;1M:25b;1V1M:b0,66;1M:67;1M:68;4M:127;1M:69;2M",
  ":6c;2V1M:6e;1M:6e,6f;1V2M:70;1M:71;1M:72;3V2M:73,6d;1M:74,65,6c;1M:74,6d;1V1M:7a;1V1M:3c9;1V",
  "1M:7a;1V1M:6b;1M:e5;1M:62;1M:63;1V1M:65;2M:66;1M:214e;1M:6d;1M:6f;1M:5d0;1M:5d1;1M:5d2;1M:5d",
  "3;1M:69;1V1M:66,61,78;1M:3c0;1M:3b3;2M:3c0;1M:2211;1V4M:64;2M:65;1M:69;1M:6a;1V6M:31,2044,37",
  ";1M:31,2044,39;1M:31,2044,31,30;1M:31,2044,33;1M:32,2044,33;1M:31,2044,35;1M:32,2044,35;1M:3",
  "3,2044,35;1M:34,2044,35;1M:31,2044,36;1M:35,2044,36;1M:31,2044,38;1M:33,2044,38;1M:35,2044,3",
  "8;1M:37,2044,38;1M:31,2044;1M:69;1M:69,69;1M:69,69,69;1M:69,76;1M:76;1M:76,69;1M:76,69,69;1M",
  ":76,69,69,69;1M:69,78;1M:78;1M:78,69;1M:78,69,69;1M:6c;1M:63;1M:64;1M:6d;1M:69;1M:69,69;1M:6",
  "9,69,69;1M:69,76;1M:76;1M:76,69;1M:76,69,69;1M:76,69,69,69;1M:69,78;1M:78;1M:78,69;1M:78,69,",
  "69;1M:6c;1M:63;1M:64;1M:6d;1V3M:2184;1V5M:30,2044,33;1V2X4V9cM:222b,222b;1M:222b,222b,222b;1",
  "V1M:222e,222e;1M:222e,222e,222e;1Vf8M:3008;1M:3009;1VffX16VbX15M:31;1M:32;1M:33;1M:34;1M:35;",
  "1M:36;1M:37;1M:38;1M:39;1M:31,30;1M:31,31;1M:31,32;1M:31,33;1M:31,34;1M:31,35;1M:31,36;1M:31",
  ",37;1M:31,38;1M:31,39;1M:32,30;1M:28,31,29;1M:28,32,29;1M:28,33,29;1M:28,34,29;1M:28,35,29;1",
  "M:28,36,29;1M:28,37,29;1M:28,38,29;1M:28,39,29;1M:28,31,30,29;1M:28,31,31,29;1M:28,31,32,29;",
  "1M:28,31,33,29;1M:28,31,34,29;1M:28,31,35,29;1M:28,31,36,29;1M:28,31,37,29;1M:28,31,38,29;1M",
  ":28,31,39,29;1M:28,32,30,29;1X14M:28,61,29;1M:28,62,29;1M:28,63,29;1M:28,64,29;1M:28,65,29;1",
  "M:28,66,29;1M:28,67,29;1M:28,68,29;1M:28,69,29;1M:28,6a,29;1M:28,6b,29;1M:28,6c,29;1M:28,6d,",
  "29;1M:28,6e,29;1M:28,6f,29;1M:28,70,29;1M:28,71,29;1M:28,72,29;1M:28,73,29;1M:28,74,29;1M:28",
  ",75,29;1M:28,76,29;1M:28,77,29;1M:28,78,29;1M:28,79,29;1M:28,7a,29;1M:61;1M:62;1M:63;1M:64;1",
  "M:65;1M:66;1M:67;1M:68;1M:69;1M:6a;1M:6b;1M:6c;1M:6d;1M:6e;1M:6f;1M:70;1M:71;1M:72;1M:73;1M:",
  "74;1M:75;1M:76;1M:77;1M:78;1M:79;1M:7a;1M:61;1M:62;1M:63;1M:64;1M:65;1M:66;1M:67;1M:68;1M:69",
  ";1M:6a;1M:6b;1M:6c;1M:6d;1M:6e;1M:6f;1M:70;1M:71;1M:72;1M:73;1M:74;1M:75;1M:76;1M:77;1M:78;1",
  "M:79;1M:7a;1M:30;1V521M:222b,222b,222b,222b;1V67M:3a,3a,3d;1M:3d,3d;1M:3d,3d,3d;1V65M:2add,3",
  "38;1V97X2V8aM:2c30;1M:2c31;1M:2c32;1M:2c33;1M:2c34;1M:2c35;1M:2c36;1M:2c37;1M:2c38;1M:2c39;1",
  "M:2c3a;1M:2c3b;1M:2c3c;1M:2c3d;1M:2c3e;1M:2c3f;1M:2c40;1M:2c41;1M:2c42;1M:2c43;1M:2c44;1M:2c",
  "45;1M:2c46;1M:2c47;1M:2c48;1M:2c49;1M:2c4a;1M:2c4b;1M:2c4c;1M:2c4d;1M:2c4e;1M:2c4f;1M:2c50;1",
  "M:2c51;1M:2c52;1M:2c53;1M:2c54;1M:2c55;1M:2c56;1M:2c57;1M:2c58;1M:2c59;1M:2c5a;1M:2c5b;1M:2c",
  "5c;1M:2c5d;1M:2c5e;1M:2c5f;1V30M:2c61;1V1M:26b;1M:1d7d;1M:27d;1V2M:2c68;1V1M:2c6a;1V1M:2c6c;",
  "1V1M:251;1M:271;1M:250;1M:252;1V1M:2c73;1V2M:2c76;1V6M:6a;1M:76;1M:23f;1M:240;1M:2c81;1V1M:2",
  "c83;1V1M:2c85;1V1M:2c87;1V1M:2c89;1V1M:2c8b;1V1M:2c8d;1V1M:2c8f;1V1M:2c91;1V1M:2c93;1V1M:2c9",
  "5;1V1M:2c97;1V1M:2c99;1V1M:2c9b;1V1M:2c9d;1V1M:2c9f;1V1M:2ca1;1V1M:2ca3;1V1M:2ca5;1V1M:2ca7;",
  "1V1M:2ca9;1V1M:2cab;1V1M:2cad;1V1M:2caf;1V1M:2cb1;1V1M:2cb3;1V1M:2cb5;1V1M:2cb7;1V1M:2cb9;1V",
  "1M:2cbb;1V1M:2cbd;1V1M:2cbf;1V1M:2cc1;1V1M:2cc3;1V1M:2cc5;1V1M:2cc7;1V1M:2cc9;1V1M:2ccb;1V1M",
  ":2ccd;1V1M:2ccf;1V1M:2cd1;1V1M:2cd3;1V1M:2cd5;1V1M:2cd7;1V1M:2cd9;1V1M:2cdb;1V1M:2cdd;1V1M:2",
  "cdf;1V1M:2ce1;1V1M:2ce3;1V8M:2cec;1V1M:2cee;1V4M:2cf3;1V1X5V2dX1V1X5V1X2V38X7M:2d61;1V1XeV18",
  "X9V7X1V7X1V7X1V7X1V7X1V7X1V7X1V7X1V7eX22V1aX1V4M:6bcd;1V53M:9f9f;1XcM:4e00;1M:4e28;1M:4e36;1",
  "M:4e3f;1M:4e59;1M:4e85;1M:4e8c;1M:4ea0;1M:4eba;1M:513f;1M:5165;1M:516b;1M:5182;1M:5196;1M:51",
  "ab;1M:51e0;1M:51f5;1M:5200;1M:529b;1M:52f9;1M:5315;1M:531a;1M:5338;1M:5341;1M:535c;1M:5369;1",
  "M:5382;1M:53b6;1M:53c8;1M:53e3;1M:56d7;1M:571f;1M:58eb;1M:5902;1M:590a;1M:5915;1M:5927;1M:59",
  "73;1M:5b50;1M:5b80;1M:5bf8;1M:5c0f;1M:5c22;1M:5c38;1M:5c6e;1M:5c71;1M:5ddb;1M:5de5;1M:5df1;1",
  "M:5dfe;1M:5e72;1M:5e7a;1M:5e7f;1M:5ef4;1M:5efe;1M:5f0b;1M:5f13;1M:5f50;1M:5f61;1M:5f73;1M:5f",
  "c3;1M:6208;1M:6236;1M:624b;1M:652f;1M:6534;1M:6587;1M:6597;1M:65a4;1M:65b9;1M:65e0;1M:65e5;1",
  "M:66f0;1M:6708;1M:6728;1M:6b20;1M:6b62;1M:6b79;1M:6bb3;1M:6bcb;1M:6bd4;1M:6bdb;1M:6c0f;1M:6c",
  "14;1M:6c34;1M:706b;1M:722a;1M:7236;1M:723b;1M:723f;1M:7247;1M:7259;1M:725b;1M:72ac;1M:7384;1",
  "M:7389;1M:74dc;1M:74e6;1M:7518;1M:751f;1M:7528;1M:7530;1M:758b;1M:7592;1M:7676;1M:767d;1M:76",
  "ae;1M:76bf;1M:76ee;1M:77db;1M:77e2;1M:77f3;1M:793a;1M:79b8;1M:79be;1M:7a74;1M:7acb;1M:7af9;1",
  "M:7c73;1M:7cf8;1M:7f36;1M:7f51;1M:7f8a;1M:7fbd;1M:8001;1M:800c;1M:8012;1M:8033;1M:807f;1M:80",
  "89;1M:81e3;1M:81ea;1M:81f3;1M:81fc;1M:820c;1M:821b;1M:821f;1M:826e;1M:8272;1M:8278;1M:864d;1",
  "M:866b;1M:8840;1M:884c;1M:8863;1M:897e;1M:898b;1M:89d2;1M:8a00;1M:8c37;1M:8c46;1M:8c55;1M:8c",
  "78;1M:8c9d;1M:8d64;1M:8d70;1M:8db3;1M:8eab;1M:8eca;1M:8f9b;1M:8fb0;1M:8fb5;1M:9091;1M:9149;1",
  "M:91c6;1M:91cc;1M:91d1;1M:9577;1M:9580;1M:961c;1M:96b6;1M:96b9;1M:96e8;1M:9751;1M:975e;1M:97",
  "62;1M:9769;1M:97cb;1M:97ed;1M:97f3;1M:9801;1M:98a8;1M:98db;1M:98df;1M:9996;1M:9999;1M:99ac;1",
  "M:9aa8;1M:9ad8;1M:9adf;1M:9b25;1M:9b2f;1M:9b32;1M:9b3c;1M:9b5a;1M:9ce5;1M:9e75;1M:9e7f;1M:9e",
  "a5;1M:9ebb;1M:9ec3;1M:9ecd;1M:9ed1;1M:9ef9;1M:9efd;1M:9f0e;1M:9f13;1M:9f20;1M:9f3b;1M:9f4a;1",
  "M:9f52;1M:9f8d;1M:9f9c;1M:9fa0;1X2aM:20;1V1M:2e;1V33M:3012;1V1M:5341;1M:5344;1M:5345;1V5X1V5",
  "6X2V2M:20,3099;1M:20,309a;1V2M:3088,308a;1V5fM:30b3,30c8;1X5V2bX1M:1100;1M:1101;1M:11aa;1M:1",
  "102;1M:11ac;1M:11ad;1M:1103;1M:1104;1M:1105;1M:11b0;1M:11b1;1M:11b2;1M:11b3;1M:11b4;1M:11b5;",
  "1M:111a;1M:1106;1M:1107;1M:1108;1M:1121;1M:1109;1M:110a;1M:110b;1M:110c;1M:110d;1M:110e;1M:1",
  "10f;1M:1110;1M:1111;1M:1112;1M:1161;1M:1162;1M:1163;1M:1164;1M:1165;1M:1166;1M:1167;1M:1168;",
  "1M:1169;1M:116a;1M:116b;1M:116c;1M:116d;1M:116e;1M:116f;1M:1170;1M:1171;1M:1172;1M:1173;1M:1",
  "174;1M:1175;1M:;1M:1114;1M:1115;1M:11c7;1M:11c8;1M:11cc;1M:11ce;1M:11d3;1M:11d7;1M:11d9;1M:1",
  "11c;1M:11dd;1M:11df;1M:111d;1M:111e;1M:1120;1M:1122;1M:1123;1M:1127;1M:1129;1M:112b;1M:112c;",
  "1M:112d;1M:112e;1M:112f;1M:1132;1M:1136;1M:1140;1M:1147;1M:114c;1M:11f1;1M:11f2;1M:1157;1M:1",
  "158;1M:1159;1M:1184;1M:1185;1M:1188;1M:1191;1M:1192;1M:1194;1M:119e;1M:11a1;1X1V2M:4e00;1M:4",
  "e8c;1M:4e09;1M:56db;1M:4e0a;1M:4e2d;1M:4e0b;1M:7532;1M:4e59;1M:4e19;1M:4e01;1M:5929;1M:5730;",
  "1M:4eba;1V46XaV10M:28,1100,29;1M:28,1102,29;1M:28,1103,29;1M:28,1105,29;1M:28,1106,29;1M:28,",
  "1107,29;1M:28,1109,29;1M:28,110b,29;1M:28,110c,29;1M:28,110e,29;1M:28,110f,29;1M:28,1110,29;",
  "1M:28,1111,29;1M:28,1112,29;1M:28,ac00,29;1M:28,b098,29;1M:28,b2e4,29;1M:28,b77c,29;1M:28,b9",
  "c8,29;1M:28,bc14,29;1M:28,c0ac,29;1M:28,c544,29;1M:28,c790,29;1M:28,cc28,29;1M:28,ce74,29;1M",
  ":28,d0c0,29;1M:28,d30c,29;1M:28,d558,29;1M:28,c8fc,29;1M:28,c624,c804,29;1M:28,c624,d6c4,29;",
  "1X1M:28,4e00,29;1M:28,4e8c,29;1M:28,4e09,29;1M:28,56db,29;1M:28,4e94,29;1M:28,516d,29;1M:28,",
  "4e03,29;1M:28,516b,29;1M:28,4e5d,29;1M:28,5341,29;1M:28,6708,29;1M:28,706b,29;1M:28,6c34,29;",
  "1M:28,6728,29;1M:28,91d1,29;1M:28,571f,29;1M:28,65e5,29;1M:28,682a,29;1M:28,6709,29;1M:28,79",
  "3e,29;1M:28,540d,29;1M:28,7279,29;1M:28,8ca1,29;1M:28,795d,29;1M:28,52b4,29;1M:28,4ee3,29;1M",
  ":28,547c,29;1M:28,5b66,29;1M:28,76e3,29;1M:28,4f01,29;1M:28,8cc7,29;1M:28,5354,29;1M:28,796d",
  ",29;1M:28,4f11,29;1M:28,81ea,29;1M:28,81f3,29;1M:554f;1M:5e7c;1M:6587;1M:7b8f;1V8M:70,74,65;",
  "1M:32,31;1M:32,32;1M:32,33;1M:32,34;1M:32,35;1M:32,36;1M:32,37;1M:32,38;1M:32,39;1M:33,30;1M",
  ":33,31;1M:33,32;1M:33,33;1M:33,34;1M:33,35;1M:1100;1M:1102;1M:1103;1M:1105;1M:1106;1M:1107;1",
  "M:1109;1M:110b;1M:110c;1M:110e;1M:110f;1M:1110;1M:1111;1M:1112;1M:ac00;1M:b098;1M:b2e4;1M:b7",
  "7c;1M:b9c8;1M:bc14;1M:c0ac;1M:c544;1M:c790;1M:cc28;1M:ce74;1M:d0c0;1M:d30c;1M:d558;1M:cc38,a",
  "ce0;1M:c8fc,c758;1M:c6b0;1V1M:4e00;1M:4e8c;1M:4e09;1M:56db;1M:4e94;1M:516d;1M:4e03;1M:516b;1",
  "M:4e5d;1M:5341;1M:6708;1M:706b;1M:6c34;1M:6728;1M:91d1;1M:571f;1M:65e5;1M:682a;1M:6709;1M:79",
  "3e;1M:540d;1M:7279;1M:8ca1;1M:795d;1M:52b4;1M:79d8;1M:7537;1M:5973;1M:9069;1M:512a;1M:5370;1",
  "M:6ce8;1M:9805;1M:4f11;1M:5199;1M:6b63;1M:4e0a;1M:4e2d;1M:4e0b;1M:5de6;1M:53f3;1M:533b;1M:5b",
  "97;1M:5b66;1M:76e3;1M:4f01;1M:8cc7;1M:5354;1M:591c;1M:33,36;1M:33,37;1M:33,38;1M:33,39;1M:34",
  ",30;1M:34,31;1M:34,32;1M:34,33;1M:34,34;1M:34,35;1M:34,36;1M:34,37;1M:34,38;1M:34,39;1M:35,3",
  "0;1M:31,6708;1M:32,6708;1M:33,6708;1M:34,6708;1M:35,6708;1M:36,6708;1M:37,6708;1M:38,6708;1M",
  ":39,6708;1M:31,30,6708;1M:31,31,6708;1M:31,32,6708;1M:68,67;1M:65,72,67;1M:65,76;1M:6c,74,64",
  ";1M:30a2;1M:30a4;1M:30a6;1M:30a8;1M:30aa;1M:30ab;1M:30ad;1M:30af;1M:30b1;1M:30b3;1M:30b5;1M:",
  "30b7;1M:30b9;1M:30bb;1M:30bd;1M:30bf;1M:30c1;1M:30c4;1M:30c6;1M:30c8;1M:30ca;1M:30cb;1M:30cc",
  ";1M:30cd;1M:30ce;1M:30cf;1M:30d2;1M:30d5;1M:30d8;1M:30db;1M:30de;1M:30df;1M:30e0;1M:30e1;1M:",
  "30e2;1M:30e4;1M:30e6;1M:30e8;1M:30e9;1M:30ea;1M:30eb;1M:30ec;1M:30ed;1M:30ef;1M:30f0;1M:30f1",
  ";1M:30f2;1M:4ee4,548c;1M:30a2,30d1,30fc,30c8;1M:30a2,30eb,30d5,30a1;1M:30a2,30f3,30da,30a2;1",
  "M:30a2,30fc,30eb;1M:30a4,30cb,30f3,30b0;1M:30a4,30f3,30c1;1M:30a6,30a9,30f3;1M:30a8,30b9,30a",
  "f,30fc,30c9;1M:30a8,30fc,30ab,30fc;1M:30aa,30f3,30b9;1M:30aa,30fc,30e0;1M:30ab,30a4,30ea;1M:",
  "30ab,30e9,30c3,30c8;1M:30ab,30ed,30ea,30fc;1M:30ac,30ed,30f3;1M:30ac,30f3,30de;1M:30ae,30ac;",
  "1M:30ae,30cb,30fc;1M:30ad,30e5,30ea,30fc;1M:30ae,30eb,30c0,30fc;1M:30ad,30ed;1M:30ad,30ed,30",
  "b0,30e9,30e0;1M:30ad,30ed,30e1,30fc,30c8,30eb;1M:30ad,30ed,30ef,30c3,30c8;1M:30b0,30e9,30e0;",
  "1M:30b0,30e9,30e0,30c8,30f3;1M:30af,30eb,30bc,30a4,30ed;1M:30af,30ed,30fc,30cd;1M:30b1,30fc,",
  "30b9;1M:30b3,30eb,30ca;1M:30b3,30fc,30dd;1M:30b5,30a4,30af,30eb;1M:30b5,30f3,30c1,30fc,30e0;",
  "1M:30b7,30ea,30f3,30b0;1M:30bb,30f3,30c1;1M:30bb,30f3,30c8;1M:30c0,30fc,30b9;1M:30c7,30b7;1M",
  ":30c9,30eb;1M:30c8,30f3;1M:30ca,30ce;1M:30ce,30c3,30c8;1M:30cf,30a4,30c4;1M:30d1,30fc,30bb,3",
  "0f3,30c8;1M:30d1,30fc,30c4;1M:30d0,30fc,30ec,30eb;1M:30d4,30a2,30b9,30c8,30eb;1M:30d4,30af,3",
  "0eb;1M:30d4,30b3;1M:30d3,30eb;1M:30d5,30a1,30e9,30c3,30c9;1M:30d5,30a3,30fc,30c8;1M:30d6,30c",
  "3,30b7,30a7,30eb;1M:30d5,30e9,30f3;1M:30d8,30af,30bf,30fc,30eb;1M:30da,30bd;1M:30da,30cb,30d",
  "2;1M:30d8,30eb,30c4;1M:30da,30f3,30b9;1M:30da,30fc,30b8;1M:30d9,30fc,30bf;1M:30dd,30a4,30f3,",
  "30c8;1M:30dc,30eb,30c8;1M:30db,30f3;1M:30dd,30f3,30c9;1M:30db,30fc,30eb;1M:30db,30fc,30f3;1M",
  ":30de,30a4,30af,30ed;1M:30de,30a4,30eb;1M:30de,30c3,30cf;1M:30de,30eb,30af;1M:30de,30f3,30b7",
  ",30e7,30f3;1M:30df,30af,30ed,30f3;1M:30df,30ea;1M:30df,30ea,30d0,30fc,30eb;1M:30e1,30ac;1M:3",
  "0e1,30ac,30c8,30f3;1M:30e1,30fc,30c8,30eb;1M:30e4,30fc,30c9;1M:30e4,30fc,30eb;1M:30e6,30a2,3",
  "0f3;1M:30ea,30c3,30c8,30eb;1M:30ea,30e9;1M:30eb,30d4,30fc;1M:30eb,30fc,30d6,30eb;1M:30ec,30e",
  "0;1M:30ec,30f3,30c8,30b2,30f3;1M:30ef,30c3,30c8;1M:30,70b9;1M:31,70b9;1M:32,70b9;1M:33,70b9;",
  "1M:34,70b9;1M:35,70b9;1M:36,70b9;1M:37,70b9;1M:38,70b9;1M:39,70b9;1M:31,30,70b9;1M:31,31,70b",
  "9;1M:31,32,70b9;1M:31,33,70b9;1M:31,34,70b9;1M:31,35,70b9;1M:31,36,70b9;1M:31,37,70b9;1M:31,",
  "38,70b9;1M:31,39,70b9;1M:32,30,70b9;1M:32,31,70b9;1M:32,32,70b9;1M:32,33,70b9;1M:32,34,70b9;",
  "1M:68,70,61;1M:64,61;1M:61,75;1M:62,61,72;1M:6f,76;1M:70,63;1M:64,6d;1M:64,6d,32;1M:64,6d,33",
  ";1M:69,75;1M:5e73,6210;1M:662d,548c;1M:5927,6b63;1M:660e,6cbb;1M:682a,5f0f,4f1a,793e;1M:70,6",
  "1;1M:6e,61;1M:3bc,61;1M:6d,61;1M:6b,61;1M:6b,62;1M:6d,62;1M:67,62;1M:63,61,6c;1M:6b,63,61,6c",
  ";1M:70,66;1M:6e,66;1M:3bc,66;1M:3bc,67;1M:6d,67;1M:6b,67;1M:68,7a;1M:6b,68,7a;1M:6d,68,7a;1M",
  ":67,68,7a;1M:74,68,7a;1M:3bc,6c;1M:6d,6c;1M:64,6c;1M:6b,6c;1M:66,6d;1M:6e,6d;1M:3bc,6d;1M:6d",
  ",6d;1M:63,6d;1M:6b,6d;1M:6d,6d,32;1M:63,6d,32;1M:6d,32;1M:6b,6d,32;1M:6d,6d,33;1M:63,6d,33;1",
  "M:6d,33;1M:6b,6d,33;1M:6d,2215,73;1M:6d,2215,73,32;1M:70,61;1M:6b,70,61;1M:6d,70,61;1M:67,70",
  ",61;1M:72,61,64;1M:72,61,64,2215,73;1M:72,61,64,2215,73,32;1M:70,73;1M:6e,73;1M:3bc,73;1M:6d",
  ",73;1M:70,76;1M:6e,76;1M:3bc,76;1M:6d,76;1M:6b,76;1M:6d,76;1M:70,77;1M:6e,77;1M:3bc,77;1M:6d",
  ",77;1M:6b,77;1M:6d,77;1M:6b,3c9;1M:6d,3c9;1X1M:62,71;1M:63,63;1M:63,64;1M:63,2215,6b,67;1X1M",
  ":64,62;1M:67,79;1M:68,61;1M:68,70;1M:69,6e;1M:6b,6b;1M:6b,6d;1M:6b,74;1M:6c,6d;1M:6c,6e;1M:6",
  "c,6f,67;1M:6c,78;1M:6d,62;1M:6d,69,6c;1M:6d,6f,6c;1M:70,68;1X1M:70,70,6d;1M:70,72;1M:73,72;1",
  "M:73,76;1M:77,62;1M:76,2215,6d;1M:61,2215,6d;1M:31,65e5;1M:32,65e5;1M:33,65e5;1M:34,65e5;1M:",
  "35,65e5;1M:36,65e5;1M:37,65e5;1M:38,65e5;1M:39,65e5;1M:31,30,65e5;1M:31,31,65e5;1M:31,32,65e",
  "5;1M:31,33,65e5;1M:31,34,65e5;1M:31,35,65e5;1M:31,36,65e5;1M:31,37,65e5;1M:31,38,65e5;1M:31,",
  "39,65e5;1M:32,30,65e5;1M:32,31,65e5;1M:32,32,65e5;1M:32,33,65e5;1M:32,34,65e5;1M:32,35,65e5;",
  "1M:32,36,65e5;1M:32,37,65e5;1M:32,38,65e5;1M:32,39,65e5;1M:33,30,65e5;1M:33,31,65e5;1M:67,61",
  ",6c;1V708dX3V37X9V15cX14M:a641;1V1M:a643;1V1M:a645;1V1M:a647;1V1M:a649;1V1M:a64b;1V1M:a64d;1",
  "V1M:a64f;1V1M:a651;1V1M:a653;1V1M:a655;1V1M:a657;1V1M:a659;1V1M:a65b;1V1M:a65d;1V1M:a65f;1V1",
  "M:a661;1V1M:a663;1V1M:a665;1V1M:a667;1V1M:a669;1V1M:a66b;1V1M:a66d;1V13M:a681;1V1M:a683;1V1M",
  ":a685;1V1M:a687;1V1M:a689;1V1M:a68b;1V1M:a68d;1V1M:a68f;1V1M:a691;1V1M:a693;1V1M:a695;1V1M:a",
  "697;1V1M:a699;1V1M:a69b;1V1M:44a;1M:44c;1V5aX8V22M:a723;1V1M:a725;1V1M:a727;1V1M:a729;1V1M:a",
  "72b;1V1M:a72d;1V1M:a72f;1V3M:a733;1V1M:a735;1V1M:a737;1V1M:a739;1V1M:a73b;1V1M:a73d;1V1M:a73",
  "f;1V1M:a741;1V1M:a743;1V1M:a745;1V1M:a747;1V1M:a749;1V1M:a74b;1V1M:a74d;1V1M:a74f;1V1M:a751;",
  "1V1M:a753;1V1M:a755;1V1M:a757;1V1M:a759;1V1M:a75b;1V1M:a75d;1V1M:a75f;1V1M:a761;1V1M:a763;1V",
  "1M:a765;1V1M:a767;1V1M:a769;1V1M:a76b;1V1M:a76d;1V1M:a76f;1V1M:a76f;1V8M:a77a;1V1M:a77c;1V1M",
  ":1d79;1M:a77f;1V1M:a781;1V1M:a783;1V1M:a785;1V1M:a787;1V4M:a78c;1V1M:265;1V2M:a791;1V1M:a793",
  ";1V3M:a797;1V1M:a799;1V1M:a79b;1V1M:a79d;1V1M:a79f;1V1M:a7a1;1V1M:a7a3;1V1M:a7a5;1V1M:a7a7;1",
  "V1M:a7a9;1V1M:266;1M:25c;1M:261;1M:26c;1M:26a;1V1M:29e;1M:287;1M:29d;1M:ab53;1M:a7b5;1V1M:a7",
  "b7;1V1M:a7b9;1V1M:a7bb;1V1M:a7bd;1V1M:a7bf;1V1M:a7c1;1V1M:a7c3;1V1M:a794;1M:282;1M:1d8e;1M:a",
  "7c8;1V1M:a7ca;1V1M:264;1M:a7cd;1V1M:a7cf;1V1M:a7d1;1V1M:a7d3;1V1M:a7d5;1V1M:a7d7;1V1M:a7d9;1",
  "V1M:a7db;1V1M:19b;1X14M:73;1M:63;1M:66;1M:71;1M:a7f6;1V2M:127;1M:153;1V33X3VaX6V38X8V46X8VcX",
  "6V74XbV1eX3V4eX1VbX4V21X1V37X9VeX2VaX2V67X18V1cXaV6X2V6X2V6X9V7X1V7X1V2cM:a727;1M:ab37;1M:26",
  "b;1M:ab52;1V9M:28d;1V2X4M:13a0;1M:13a1;1M:13a2;1M:13a3;1M:13a4;1M:13a5;1M:13a6;1M:13a7;1M:13",
  "a8;1M:13a9;1M:13aa;1M:13ab;1M:13ac;1M:13ad;1M:13ae;1M:13af;1M:13b0;1M:13b1;1M:13b2;1M:13b3;1",
  "M:13b4;1M:13b5;1M:13b6;1M:13b7;1M:13b8;1M:13b9;1M:13ba;1M:13bb;1M:13bc;1M:13bd;1M:13be;1M:13",
  "bf;1M:13c0;1M:13c1;1M:13c2;1M:13c3;1M:13c4;1M:13c5;1M:13c6;1M:13c7;1M:13c8;1M:13c9;1M:13ca;1",
  "M:13cb;1M:13cc;1M:13cd;1M:13ce;1M:13cf;1M:13d0;1M:13d1;1M:13d2;1M:13d3;1M:13d4;1M:13d5;1M:13",
  "d6;1M:13d7;1M:13d8;1M:13d9;1M:13da;1M:13db;1M:13dc;1M:13dd;1M:13de;1M:13df;1M:13e0;1M:13e1;1",
  "M:13e2;1M:13e3;1M:13e4;1M:13e5;1M:13e6;1M:13e7;1M:13e8;1M:13e9;1M:13ea;1M:13eb;1M:13ec;1M:13",
  "ed;1M:13ee;1M:13ef;1V2eX2VaX6V2ba4XcV17X4V31X2104M:8c48;1M:66f4;1M:8eca;1M:8cc8;1M:6ed1;1M:4",
  "e32;1M:53e5;1M:9f9c;2M:5951;1M:91d1;1M:5587;1M:5948;1M:61f6;1M:7669;1M:7f85;1M:863f;1M:87ba;",
  "1M:88f8;1M:908f;1M:6a02;1M:6d1b;1M:70d9;1M:73de;1M:843d;1M:916a;1M:99f1;1M:4e82;1M:5375;1M:6",
  "b04;1M:721b;1M:862d;1M:9e1e;1M:5d50;1M:6feb;1M:85cd;1M:8964;1M:62c9;1M:81d8;1M:881f;1M:5eca;",
  "1M:6717;1M:6d6a;1M:72fc;1M:90ce;1M:4f86;1M:51b7;1M:52de;1M:64c4;1M:6ad3;1M:7210;1M:76e7;1M:8",
  "001;1M:8606;1M:865c;1M:8def;1M:9732;1M:9b6f;1M:9dfa;1M:788c;1M:797f;1M:7da0;1M:83c9;1M:9304;",
  "1M:9e7f;1M:8ad6;1M:58df;1M:5f04;1M:7c60;1M:807e;1M:7262;1M:78ca;1M:8cc2;1M:96f7;1M:58d8;1M:5",
  "c62;1M:6a13;1M:6dda;1M:6f0f;1M:7d2f;1M:7e37;1M:964b;1M:52d2;1M:808b;1M:51dc;1M:51cc;1M:7a1c;",
  "1M:7dbe;1M:83f1;1M:9675;1M:8b80;1M:62cf;1M:6a02;1M:8afe;1M:4e39;1M:5be7;1M:6012;1M:7387;1M:7",
  "570;1M:5317;1M:78fb;1M:4fbf;1M:5fa9;1M:4e0d;1M:6ccc;1M:6578;1M:7d22;1M:53c3;1M:585e;1M:7701;",
  "1M:8449;1M:8aaa;1M:6bba;1M:8fb0;1M:6c88;1M:62fe;1M:82e5;1M:63a0;1M:7565;1M:4eae;1M:5169;1M:5",
  "1c9;1M:6881;1M:7ce7;1M:826f;1M:8ad2;1M:91cf;1M:52f5;1M:5442;1M:5973;1M:5eec;1M:65c5;1M:6ffe;",
  "1M:792a;1M:95ad;1M:9a6a;1M:9e97;1M:9ece;1M:529b;1M:66c6;1M:6b77;1M:8f62;1M:5e74;1M:6190;1M:6",
  "200;1M:649a;1M:6f23;1M:7149;1M:7489;1M:79ca;1M:7df4;1M:806f;1M:8f26;1M:84ee;1M:9023;1M:934a;",
  "1M:5217;1M:52a3;1M:54bd;1M:70c8;1M:88c2;1M:8aaa;1M:5ec9;1M:5ff5;1M:637b;1M:6bae;1M:7c3e;1M:7",
  "375;1M:4ee4;1M:56f9;1M:5be7;1M:5dba;1M:601c;1M:73b2;1M:7469;1M:7f9a;1M:8046;1M:9234;1M:96f6;",
  "1M:9748;1M:9818;1M:4f8b;1M:79ae;1M:91b4;1M:96b8;1M:60e1;1M:4e86;1M:50da;1M:5bee;1M:5c3f;1M:6",
  "599;1M:6a02;1M:71ce;1M:7642;1M:84fc;1M:907c;1M:9f8d;1M:6688;1M:962e;1M:5289;1M:677b;1M:67f3;",
  "1M:6d41;1M:6e9c;1M:7409;1M:7559;1M:786b;1M:7d10;1M:985e;1M:516d;1M:622e;1M:9678;1M:502b;1M:5",
  "d19;1M:6dea;1M:8f2a;1M:5f8b;1M:6144;1M:6817;1M:7387;1M:9686;1M:5229;1M:540f;1M:5c65;1M:6613;",
  "1M:674e;1M:68a8;1M:6ce5;1M:7406;1M:75e2;1M:7f79;1M:88cf;1M:88e1;1M:91cc;1M:96e2;1M:533f;1M:6",
  "eba;1M:541d;1M:71d0;1M:7498;1M:85fa;1M:96a3;1M:9c57;1M:9e9f;1M:6797;1M:6dcb;1M:81e8;1M:7acb;",
  "1M:7b20;1M:7c92;1M:72c0;1M:7099;1M:8b58;1M:4ec0;1M:8336;1M:523a;1M:5207;1M:5ea6;1M:62d3;1M:7",
  "cd6;1M:5b85;1M:6d1e;1M:66b4;1M:8f3b;1M:884c;1M:964d;1M:898b;1M:5ed3;1M:5140;1M:55c0;1V2M:585",
  "a;1V1M:6674;1V2M:51de;1M:732a;1M:76ca;1M:793c;1M:795e;1M:7965;1M:798f;1M:9756;1M:7cbe;1M:7fb",
  "d;1V1M:8612;1V1M:8af8;1V2M:9038;1M:90fd;1V3M:98ef;1M:98fc;1M:9928;1M:9db4;1M:90de;1M:96b7;1M",
  ":4fae;1M:50e7;1M:514d;1M:52c9;1M:52e4;1M:5351;1M:559d;1M:5606;1M:5668;1M:5840;1M:58a8;1M:5c6",
  "4;1M:5c6e;1M:6094;1M:6168;1M:618e;1M:61f2;1M:654f;1M:65e2;1M:6691;1M:6885;1M:6d77;1M:6e1a;1M",
  ":6f22;1M:716e;1M:722b;1M:7422;1M:7891;1M:793e;1M:7949;1M:7948;1M:7950;1M:7956;1M:795d;1M:798",
  "d;1M:798e;1M:7a40;1M:7a81;1M:7bc0;1M:7df4;1M:7e09;1M:7e41;1M:7f72;1M:8005;1M:81ed;1M:8279;2M",
  ":8457;1M:8910;1M:8996;1M:8b01;1M:8b39;1M:8cd3;1M:8d08;1M:8fb6;1M:9038;1M:96e3;1M:97ff;1M:983",
  "b;1M:6075;1M:242ee;1M:8218;1X2M:4e26;1M:51b5;1M:5168;1M:4f80;1M:5145;1M:5180;1M:52c7;1M:52fa",
  ";1M:559d;1M:5555;1M:5599;1M:55e2;1M:585a;1M:58b3;1M:5944;1M:5954;1M:5a62;1M:5b28;1M:5ed2;1M:",
  "5ed9;1M:5f69;1M:5fad;1M:60d8;1M:614e;1M:6108;1M:618e;1M:6160;1M:61f2;1M:6234;1M:63c4;1M:641c",
  ";1M:6452;1M:6556;1M:6674;1M:6717;1M:671b;1M:6756;1M:6b79;1M:6bba;1M:6d41;1M:6edb;1M:6ecb;1M:",
  "6f22;1M:701e;1M:716e;1M:77a7;1M:7235;1M:72af;1M:732a;1M:7471;1M:7506;1M:753b;1M:761d;1M:761f",
  ";1M:76ca;1M:76db;1M:76f4;1M:774a;1M:7740;1M:78cc;1M:7ab1;1M:7bc0;1M:7c7b;1M:7d5b;1M:7df4;1M:",
  "7f3e;1M:8005;1M:8352;1M:83ef;1M:8779;1M:8941;1M:8986;1M:8996;1M:8abf;1M:8af8;1M:8acb;1M:8b01",
  ";1M:8afe;1M:8aed;1M:8b39;1M:8b8a;1M:8d08;1M:8f38;1M:9072;1M:9199;1M:9276;1M:967c;1M:96e3;1M:",
  "9756;1M:97db;1M:97ff;1M:980b;1M:983b;1M:9b12;1M:9f9c;1M:2284a;1M:22844;1M:233d5;1M:3b9d;1M:4",
  "018;1M:4039;1M:25249;1M:25cd0;1M:27ed3;1M:9f43;1M:9f8e;1X26M:66,66;1M:66,69;1M:66,6c;1M:66,6",
  "6,69;1M:66,66,6c;1M:73,74;2XcM:574,576;1M:574,565;1M:574,56b;1M:57e,576;1M:574,56d;1X5M:5d9,",
  "5b4;1V1M:5f2,5b7;1M:5e2;1M:5d0;1M:5d3;1M:5d4;1M:5db;1M:5dc;1M:5dd;1M:5e8;1M:5ea;1M:2b;1M:5e9",
  ",5c1;1M:5e9,5c2;1M:5e9,5bc,5c1;1M:5e9,5bc,5c2;1M:5d0,5b7;1M:5d0,5b8;1M:5d0,5bc;1M:5d1,5bc;1M",
  ":5d2,5bc;1M:5d3,5bc;1M:5d4,5bc;1M:5d5,5bc;1M:5d6,5bc;1X1M:5d8,5bc;1M:5d9,5bc;1M:5da,5bc;1M:5",
  "db,5bc;1M:5dc,5bc;1X1M:5de,5bc;1X1M:5e0,5bc;1M:5e1,5bc;1X1M:5e3,5bc;1M:5e4,5bc;1X1M:5e6,5bc;",
  "1M:5e7,5bc;1M:5e8,5bc;1M:5e9,5bc;1M:5ea,5bc;1M:5d5,5b9;1M:5d1,5bf;1M:5db,5bf;1M:5e4,5bf;1M:5",
  "d0,5dc;1M:671;2M:67b;4M:67e;4M:680;4M:67a;4M:67f;4M:679;4M:6a4;4M:6a6;4M:684;4M:683;4M:686;4",
  "M:687;4M:68d;2M:68c;2M:68e;2M:688;2M:698;2M:691;2M:6a9;4M:6af;4M:6b3;4M:6b1;4M:6ba;2M:6bb;4M",
  ":6c0;2M:6c1;4M:6be;4M:6d2;2M:6d3;2V21M:6ad;4M:6c7;2M:6c6;2M:6c8;2M:6c7,674;1M:6cb;2M:6c5;2M:",
  "6c9;2M:6d0;4M:649;2M:626,627;2M:626,6d5;2M:626,648;2M:626,6c7;2M:626,6c6;2M:626,6c8;2M:626,6",
  "d0;3M:626,649;3M:6cc;4M:626,62c;1M:626,62d;1M:626,645;1M:626,649;1M:626,64a;1M:628,62c;1M:62",
  "8,62d;1M:628,62e;1M:628,645;1M:628,649;1M:628,64a;1M:62a,62c;1M:62a,62d;1M:62a,62e;1M:62a,64",
  "5;1M:62a,649;1M:62a,64a;1M:62b,62c;1M:62b,645;1M:62b,649;1M:62b,64a;1M:62c,62d;1M:62c,645;1M",
  ":62d,62c;1M:62d,645;1M:62e,62c;1M:62e,62d;1M:62e,645;1M:633,62c;1M:633,62d;1M:633,62e;1M:633",
  ",645;1M:635,62d;1M:635,645;1M:636,62c;1M:636,62d;1M:636,62e;1M:636,645;1M:637,62d;1M:637,645",
  ";1M:638,645;1M:639,62c;1M:639,645;1M:63a,62c;1M:63a,645;1M:641,62c;1M:641,62d;1M:641,62e;1M:",
  "641,645;1M:641,649;1M:641,64a;1M:642,62d;1M:642,645;1M:642,649;1M:642,64a;1M:643,627;1M:643,",
  "62c;1M:643,62d;1M:643,62e;1M:643,644;1M:643,645;1M:643,649;1M:643,64a;1M:644,62c;1M:644,62d;",
  "1M:644,62e;1M:644,645;1M:644,649;1M:644,64a;1M:645,62c;1M:645,62d;1M:645,62e;1M:645,645;1M:6",
  "45,649;1M:645,64a;1M:646,62c;1M:646,62d;1M:646,62e;1M:646,645;1M:646,649;1M:646,64a;1M:647,6",
  "2c;1M:647,645;1M:647,649;1M:647,64a;1M:64a,62c;1M:64a,62d;1M:64a,62e;1M:64a,645;1M:64a,649;1",
  "M:64a,64a;1M:630,670;1M:631,670;1M:649,670;1M:20,64c,651;1M:20,64d,651;1M:20,64e,651;1M:20,6",
  "4f,651;1M:20,650,651;1M:20,651,670;1M:626,631;1M:626,632;1M:626,645;1M:626,646;1M:626,649;1M",
  ":626,64a;1M:628,631;1M:628,632;1M:628,645;1M:628,646;1M:628,649;1M:628,64a;1M:62a,631;1M:62a",
  ",632;1M:62a,645;1M:62a,646;1M:62a,649;1M:62a,64a;1M:62b,631;1M:62b,632;1M:62b,645;1M:62b,646",
  ";1M:62b,649;1M:62b,64a;1M:641,649;1M:641,64a;1M:642,649;1M:642,64a;1M:643,627;1M:643,644;1M:",
  "643,645;1M:643,649;1M:643,64a;1M:644,645;1M:644,649;1M:644,64a;1M:645,627;1M:645,645;1M:646,",
  "631;1M:646,632;1M:646,645;1M:646,646;1M:646,649;1M:646,64a;1M:649,670;1M:64a,631;1M:64a,632;",
  "1M:64a,645;1M:64a,646;1M:64a,649;1M:64a,64a;1M:626,62c;1M:626,62d;1M:626,62e;1M:626,645;1M:6",
  "26,647;1M:628,62c;1M:628,62d;1M:628,62e;1M:628,645;1M:628,647;1M:62a,62c;1M:62a,62d;1M:62a,6",
  "2e;1M:62a,645;1M:62a,647;1M:62b,645;1M:62c,62d;1M:62c,645;1M:62d,62c;1M:62d,645;1M:62e,62c;1",
  "M:62e,645;1M:633,62c;1M:633,62d;1M:633,62e;1M:633,645;1M:635,62d;1M:635,62e;1M:635,645;1M:63",
  "6,62c;1M:636,62d;1M:636,62e;1M:636,645;1M:637,62d;1M:638,645;1M:639,62c;1M:639,645;1M:63a,62",
  "c;1M:63a,645;1M:641,62c;1M:641,62d;1M:641,62e;1M:641,645;1M:642,62d;1M:642,645;1M:643,62c;1M",
  ":643,62d;1M:643,62e;1M:643,644;1M:643,645;1M:644,62c;1M:644,62d;1M:644,62e;1M:644,645;1M:644",
  ",647;1M:645,62c;1M:645,62d;1M:645,62e;1M:645,645;1M:646,62c;1M:646,62d;1M:646,62e;1M:646,645",
  ";1M:646,647;1M:647,62c;1M:647,645;1M:647,670;1M:64a,62c;1M:64a,62d;1M:64a,62e;1M:64a,645;1M:",
  "64a,647;1M:626,645;1M:626,647;1M:628,645;1M:628,647;1M:62a,645;1M:62a,647;1M:62b,645;1M:62b,",
  "647;1M:633,645;1M:633,647;1M:634,645;1M:634,647;1M:643,644;1M:643,645;1M:644,645;1M:646,645;",
  "1M:646,647;1M:64a,645;1M:64a,647;1M:640,64e,651;1M:640,64f,651;1M:640,650,651;1M:637,649;1M:",
  "637,64a;1M:639,649;1M:639,64a;1M:63a,649;1M:63a,64a;1M:633,649;1M:633,64a;1M:634,649;1M:634,",
  "64a;1M:62d,649;1M:62d,64a;1M:62c,649;1M:62c,64a;1M:62e,649;1M:62e,64a;1M:635,649;1M:635,64a;",
  "1M:636,649;1M:636,64a;1M:634,62c;1M:634,62d;1M:634,62e;1M:634,645;1M:634,631;1M:633,631;1M:6",
  "35,631;1M:636,631;1M:637,649;1M:637,64a;1M:639,649;1M:639,64a;1M:63a,649;1M:63a,64a;1M:633,6",
  "49;1M:633,64a;1M:634,649;1M:634,64a;1M:62d,649;1M:62d,64a;1M:62c,649;1M:62c,64a;1M:62e,649;1",
  "M:62e,64a;1M:635,649;1M:635,64a;1M:636,649;1M:636,64a;1M:634,62c;1M:634,62d;1M:634,62e;1M:63",
  "4,645;1M:634,631;1M:633,631;1M:635,631;1M:636,631;1M:634,62c;1M:634,62d;1M:634,62e;1M:634,64",
  "5;1M:633,647;1M:634,647;1M:637,645;1M:633,62c;1M:633,62d;1M:633,62e;1M:634,62c;1M:634,62d;1M",
  ":634,62e;1M:637,645;1M:638,645;1M:627,64b;2V12M:62a,62c,645;1M:62a,62d,62c;2M:62a,62d,645;1M",
  ":62a,62e,645;1M:62a,645,62c;1M:62a,645,62d;1M:62a,645,62e;1M:62c,645,62d;2M:62d,645,64a;1M:6",
  "2d,645,649;1M:633,62d,62c;1M:633,62c,62d;1M:633,62c,649;1M:633,645,62d;2M:633,645,62c;1M:633",
  ",645,645;2M:635,62d,62d;2M:635,645,645;1M:634,62d,645;2M:634,62c,64a;1M:634,645,62e;2M:634,6",
  "45,645;2M:636,62d,649;1M:636,62e,645;2M:637,645,62d;2M:637,645,645;1M:637,645,64a;1M:639,62c",
  ",645;1M:639,645,645;2M:639,645,649;1M:63a,645,645;1M:63a,645,64a;1M:63a,645,649;1M:641,62e,6",
  "45;2M:642,645,62d;1M:642,645,645;1M:644,62d,645;1M:644,62d,64a;1M:644,62d,649;1M:644,62c,62c",
  ";2M:644,62e,645;2M:644,645,62d;2M:645,62d,62c;1M:645,62d,645;1M:645,62d,64a;1M:645,62c,62d;1",
  "M:645,62c,645;1M:645,62e,62c;1M:645,62e,645;1V2M:645,62c,62e;1M:647,645,62c;1M:647,645,645;1",
  "M:646,62d,645;1M:646,62d,649;1M:646,62c,645;2M:646,62c,649;1M:646,645,64a;1M:646,645,649;1M:",
  "64a,645,645;2M:628,62e,64a;1M:62a,62c,64a;1M:62a,62c,649;1M:62a,62e,64a;1M:62a,62e,649;1M:62",
  "a,645,64a;1M:62a,645,649;1M:62c,645,64a;1M:62c,62d,649;1M:62c,645,649;1M:633,62e,649;1M:635,",
  "62d,64a;1M:634,62d,64a;1M:636,62d,64a;1M:644,62c,64a;1M:644,645,64a;1M:64a,62d,64a;1M:64a,62",
  "c,64a;1M:64a,645,64a;1M:645,645,64a;1M:642,645,64a;1M:646,62d,64a;1M:642,645,62d;1M:644,62d,",
  "645;1M:639,645,64a;1M:643,645,64a;1M:646,62c,62d;1M:645,62e,64a;1M:644,62c,645;1M:643,645,64",
  "5;1M:644,62c,645;1M:646,62c,62d;1M:62c,62d,64a;1M:62d,62c,64a;1M:645,62c,64a;1M:641,645,64a;",
  "1M:628,62d,64a;1M:643,645,645;1M:639,62c,645;1M:635,645,645;1M:633,62e,64a;1M:646,62c,64a;1V",
  "8X20M:635,644,6d2;1M:642,644,6d2;1M:627,644,644,647;1M:627,643,628,631;1M:645,62d,645,62f;1M",
  ":635,644,639,645;1M:631,633,648,644;1M:639,644,64a,647;1M:648,633,644,645;1M:635,644,649;1M:",
  "635,644,649,20,627,644,644,647,20,639,644,64a,647,20,648,633,644,645;1M:62c,644,20,62c,644,6",
  "27,644,647;1M:631,6cc,627,644;1V3M:;10M:2c;1M:3001;1X1M:3a;1M:3b;1M:21;1M:3f;1M:3016;1M:3017",
  ";1X7V10X1M:2014;1M:2013;1M:5f;2M:28;1M:29;1M:7b;1M:7d;1M:3014;1M:3015;1M:3010;1M:3011;1M:300",
  "a;1M:300b;1M:3008;1M:3009;1M:300c;1M:300d;1M:300e;1M:300f;1V2M:5b;1M:5d;1M:20,305;4M:5f;3M:2",
  "c;1M:3001;1X2M:3b;1M:3a;1M:3f;1M:21;1M:2014;1M:28;1M:29;1M:7b;1M:7d;1M:3014;1M:3015;1M:23;1M",
  ":26;1M:2a;1M:2b;1M:2d;1M:3c;1M:3e;1M:3d;1X1M:5c;1M:24;1M:25;1M:40;1X4M:20,64b;1M:640,64b;1M:",
  "20,64c;1V1M:20,64d;1X1M:20,64e;1M:640,64e;1M:20,64f;1M:640,64f;1M:20,650;1M:640,650;1M:20,65",
  "1;1M:640,651;1M:20,652;1M:640,652;1M:621;1M:622;2M:623;2M:624;2M:625;2M:626;4M:627;2M:628;4M",
  ":629;2M:62a;4M:62b;4M:62c;4M:62d;4M:62e;4M:62f;2M:630;2M:631;2M:632;2M:633;4M:634;4M:635;4M:",
  "636;4M:637;4M:638;4M:639;4M:63a;4M:641;4M:642;4M:643;4M:644;4M:645;4M:646;4M:647;4M:648;2M:6",
  "49;2M:64a;4M:644,622;2M:644,623;2M:644,625;2M:644,627;2X2M:;1X1M:21;1M:22;1M:23;1M:24;1M:25;",
  "1M:26;1M:27;1M:28;1M:29;1M:2a;1M:2b;1M:2c;1M:2d;1M:2e;1M:2f;1M:30;1M:31;1M:32;1M:33;1M:34;1M",
  ":35;1M:36;1M:37;1M:38;1M:39;1M:3a;1M:3b;1M:3c;1M:3d;1M:3e;1M:3f;1M:40;1M:61;1M:62;1M:63;1M:6",
  "4;1M:65;1M:66;1M:67;1M:68;1M:69;1M:6a;1M:6b;1M:6c;1M:6d;1M:6e;1M:6f;1M:70;1M:71;1M:72;1M:73;",
  "1M:74;1M:75;1M:76;1M:77;1M:78;1M:79;1M:7a;1M:5b;1M:5c;1M:5d;1M:5e;1M:5f;1M:60;1M:61;1M:62;1M",
  ":63;1M:64;1M:65;1M:66;1M:67;1M:68;1M:69;1M:6a;1M:6b;1M:6c;1M:6d;1M:6e;1M:6f;1M:70;1M:71;1M:7",
  "2;1M:73;1M:74;1M:75;1M:76;1M:77;1M:78;1M:79;1M:7a;1M:7b;1M:7c;1M:7d;1M:7e;1M:2985;1M:2986;1M",
  ":2e;1M:300c;1M:300d;1M:3001;1M:30fb;1M:30f2;1M:30a1;1M:30a3;1M:30a5;1M:30a7;1M:30a9;1M:30e3;",
  "1M:30e5;1M:30e7;1M:30c3;1M:30fc;1M:30a2;1M:30a4;1M:30a6;1M:30a8;1M:30aa;1M:30ab;1M:30ad;1M:3",
  "0af;1M:30b1;1M:30b3;1M:30b5;1M:30b7;1M:30b9;1M:30bb;1M:30bd;1M:30bf;1M:30c1;1M:30c4;1M:30c6;",
  "1M:30c8;1M:30ca;1M:30cb;1M:30cc;1M:30cd;1M:30ce;1M:30cf;1M:30d2;1M:30d5;1M:30d8;1M:30db;1M:3",
  "0de;1M:30df;1M:30e0;1M:30e1;1M:30e2;1M:30e4;1M:30e6;1M:30e8;1M:30e9;1M:30ea;1M:30eb;1M:30ec;",
  "1M:30ed;1M:30ef;1M:30f3;1M:3099;1M:309a;1M:;1M:1100;1M:1101;1M:11aa;1M:1102;1M:11ac;1M:11ad;",
  "1M:1103;1M:1104;1M:1105;1M:11b0;1M:11b1;1M:11b2;1M:11b3;1M:11b4;1M:11b5;1M:111a;1M:1106;1M:1",
  "107;1M:1108;1M:1121;1M:1109;1M:110a;1M:110b;1M:110c;1M:110d;1M:110e;1M:110f;1M:1110;1M:1111;",
  "1M:1112;1X3M:1161;1M:1162;1M:1163;1M:1164;1M:1165;1M:1166;1X2M:1167;1M:1168;1M:1169;1M:116a;",
  "1M:116b;1M:116c;1X2M:116d;1M:116e;1M:116f;1M:1170;1M:1171;1M:1172;1X2M:1173;1M:1174;1M:1175;",
  "1X3M:a2;1M:a3;1M:ac;1M:20,304;1M:a6;1M:a5;1M:20a9;1X1M:2502;1M:2190;1M:2191;1M:2192;1M:2193;",
  "1M:25a0;1M:25cb;1X11VcX1V1aX1V13X1V2X1VfX2VeX22V7bX5V3X4V2dX3V58X1VdX3V1X2fV2eX82V1dX3V31XfV",
  "1cX4V24X9V1eX5V2bX5V1eX1V25X4VeX2aM:10428;1M:10429;1M:1042a;1M:1042b;1M:1042c;1M:1042d;1M:10",
  "42e;1M:1042f;1M:10430;1M:10431;1M:10432;1M:10433;1M:10434;1M:10435;1M:10436;1M:10437;1M:1043",
  "8;1M:10439;1M:1043a;1M:1043b;1M:1043c;1M:1043d;1M:1043e;1M:1043f;1M:10440;1M:10441;1M:10442;",
  "1M:10443;1M:10444;1M:10445;1M:10446;1M:10447;1M:10448;1M:10449;1M:1044a;1M:1044b;1M:1044c;1M",
  ":1044d;1M:1044e;1M:1044f;1V76X2VaX6M:104d8;1M:104d9;1M:104da;1M:104db;1M:104dc;1M:104dd;1M:1",
  "04de;1M:104df;1M:104e0;1M:104e1;1M:104e2;1M:104e3;1M:104e4;1M:104e5;1M:104e6;1M:104e7;1M:104",
  "e8;1M:104e9;1M:104ea;1M:104eb;1M:104ec;1M:104ed;1M:104ee;1M:104ef;1M:104f0;1M:104f1;1M:104f2",
  ";1M:104f3;1M:104f4;1M:104f5;1M:104f6;1M:104f7;1M:104f8;1M:104f9;1M:104fa;1M:104fb;1X4V24X4V2",
  "8X8V34XbV1M:10597;1M:10598;1M:10599;1M:1059a;1M:1059b;1M:1059c;1M:1059d;1M:1059e;1M:1059f;1M",
  ":105a0;1M:105a1;1X1M:105a3;1M:105a4;1M:105a5;1M:105a6;1M:105a7;1M:105a8;1M:105a9;1M:105aa;1M",
  ":105ab;1M:105ac;1M:105ad;1M:105ae;1M:105af;1M:105b0;1M:105b1;1X1M:105b3;1M:105b4;1M:105b5;1M",
  ":105b6;1M:105b7;1M:105b8;1M:105b9;1X1M:105bb;1M:105bc;1X1VbX1VfX1V7X1V2X3V34XcV137X9V16XaV8X",
  "18V1M:2d0;1M:2d1;1M:e6;1M:299;1M:253;1X1M:2a3;1M:ab66;1M:2a5;1M:2a4;1M:256;1M:257;1M:1d91;1M",
  ":258;1M:25e;1M:2a9;1M:264;1M:262;1M:260;1M:29b;1M:127;1M:29c;1M:267;1M:284;1M:2aa;1M:2ab;1M:",
  "26c;1M:1df04;1M:a78e;1M:26e;1M:1df05;1M:28e;1M:1df06;1M:f8;1M:276;1M:277;1M:71;1M:27a;1M:1df",
  "08;1M:27d;1M:27e;1M:280;1M:2a8;1M:2a6;1M:ab67;1M:2a7;1M:288;1M:2c71;1X1M:28f;1M:2a1;1M:2a2;1",
  "M:298;1M:1c0;1M:1c1;1M:1c2;1M:1df0a;1M:1df1e;1X45V6X2V1X1V2cX1V2X3V1X2V17X1V48X8V9X30V13X1V2",
  "X5V21X3V1bX5V1bX26V38X4V14X2V32X1V2X5V8X1V3X1V1dX2V3X4VaX7V9X7V40X20V27X4VcX9V36X3V1dX2V1bX5",
  "V1aX7V4XcV7X50V49X37M:10cc0;1M:10cc1;1M:10cc2;1M:10cc3;1M:10cc4;1M:10cc5;1M:10cc6;1M:10cc7;1",
  "M:10cc8;1M:10cc9;1M:10cca;1M:10ccb;1M:10ccc;1M:10ccd;1M:10cce;1M:10ccf;1M:10cd0;1M:10cd1;1M:",
  "10cd2;1M:10cd3;1M:10cd4;1M:10cd5;1M:10cd6;1M:10cd7;1M:10cd8;1M:10cd9;1M:10cda;1M:10cdb;1M:10",
  "cdc;1M:10cdd;1M:10cde;1M:10cdf;1M:10ce0;1M:10ce1;1M:10ce2;1M:10ce3;1M:10ce4;1M:10ce5;1M:10ce",
  "6;1M:10ce7;1M:10ce8;1M:10ce9;1M:10cea;1M:10ceb;1M:10cec;1M:10ced;1M:10cee;1M:10cef;1M:10cf0;",
  "1M:10cf1;1M:10cf2;1XdV33X7V2eX8VaX6V10M:10d70;1M:10d71;1M:10d72;1M:10d73;1M:10d74;1M:10d75;1",
  "M:10d76;1M:10d77;1M:10d78;1M:10d79;1M:10d7a;1M:10d7b;1M:10d7c;1M:10d7d;1M:10d7e;1M:10d7f;1M:",
  "10d80;1M:10d81;1M:10d82;1M:10d83;1M:10d84;1M:10d85;1X3V1dX8V2Xd0V1fX1V2aX1V3X2V2X10V6X8V9X21",
  "V2eX8V2aX16V1aX26V1cX14V17X9V4eX4V24X9V3eX1V5XdV19X7VaX6V35X1V12X8V27X9V60X1V14XbV12X1V2fX3e",
  "V7X1V1X1V4X1VfX1VbX6V3bX5VaX6V4X1V8X2V2X2V16X1V7X1V2X1V5X1VaX2V2X2V3X2V1X6V1X5V7X2V7X3V5XbVa",
  "X1V1X2V1X1V26X1VaX1V1X2V1X1V4X1VaX1V2X8V2X1dV5cX1V5X1eV48X8VaXa6V36X2V26X22V45XbVaX6VdX13V3a",
  "X6VaX6V14X1cV1bX2VfX4V17Xb9V3cX64M:118c0;1M:118c1;1M:118c2;1M:118c3;1M:118c4;1M:118c5;1M:118",
  "c6;1M:118c7;1M:118c8;1M:118c9;1M:118ca;1M:118cb;1M:118cc;1M:118cd;1M:118ce;1M:118cf;1M:118d0",
  ";1M:118d1;1M:118d2;1M:118d3;1M:118d4;1M:118d5;1M:118d6;1M:118d7;1M:118d8;1M:118d9;1M:118da;1",
  "M:118db;1M:118dc;1M:118dd;1M:118de;1M:118df;1V33XcV8X2V1X2V8X1V2X1V1eX1V2X2VcX9VaX46V8X2V2eX",
  "2VbX1bV48X8V53XdV49X7VaX56V8X58V22XeVaX6V9X1V2dX1VeXaV1dX3V20X2V16X1VeX49V7X1V2X1V2cX3V1X1V2",
  "X1V9X8VaX6V6X1V2X1V25X1V2X1V6X7VaX6V2cX4VaXf6V19X7V11X1V29X3V1dX55V1XfV32XdV39bX66V6fX1V5XbV",
  "c4Xa4cV63XdV430X10V16XaVf9bX5V247X1ab9V3aX6c6V239X7V1fX1VaX4V51X1VaX6V1eX2V6XaV46XaVaX1V7X1V",
  "15X5V13X1b0V3aXc6M:16e60;1M:16e61;1M:16e62;1M:16e63;1M:16e64;1M:16e65;1M:16e66;1M:16e67;1M:1",
  "6e68;1M:16e69;1M:16e6a;1M:16e6b;1M:16e6c;1M:16e6d;1M:16e6e;1M:16e6f;1M:16e70;1M:16e71;1M:16e",
  "72;1M:16e73;1M:16e74;1M:16e75;1M:16e76;1M:16e77;1M:16e78;1M:16e79;1M:16e7a;1M:16e7b;1M:16e7c",
  ";1M:16e7d;1M:16e7e;1M:16e7f;1V3bX5M:16ebb;1M:16ebc;1M:16ebd;1M:16ebe;1M:16ebf;1M:16ec0;1M:16",
  "ec1;1M:16ec2;1M:16ec3;1M:16ec4;1M:16ec5;1M:16ec6;1M:16ec7;1M:16ec8;1M:16ec9;1M:16eca;1M:16ec",
  "b;1M:16ecc;1M:16ecd;1M:16ece;1M:16ecf;1M:16ed0;1M:16ed1;1M:16ed2;1M:16ed3;1X2V19X2cV4bX4V39X",
  "7V11X40V5XbV7X9V1cd6X29V20X61V73X21fdV4X1V7X1V2X1V123XfV1X1dV3X2V1XeV4X8V18cX904V6bX5VdX3V9X",
  "7VaX2V4M:;4Xf5cVd6M:61;1M:62;1M:63;1M:64;1M:65;1M:66;1M:67;1M:68;1M:69;1M:6a;1M:6b;1M:6c;1M:",
  "6d;1M:6e;1M:6f;1M:70;1M:71;1M:72;1M:73;1M:74;1M:75;1M:76;1M:77;1M:78;1M:79;1M:7a;1M:30;1M:31",
  ";1M:32;1M:33;1M:34;1M:35;1M:36;1M:37;1M:38;1M:39;1V3X3V1b4X6V17XfV11XfV2eX2V17X9V74X3cVf6XaV",
  "27X2V35M:1d157,1d165;1M:1d158,1d165;1M:1d158,1d165,1d16e;1M:1d158,1d165,1d16f;1M:1d158,1d165",
  ",1d170;1M:1d158,1d165,1d171;1M:1d158,1d165,1d172;1VeM:;8V40M:1d1b9,1d165;1M:1d1ba,1d165;1M:1",
  "d1b9,1d165,1d16e;1M:1d1ba,1d165,1d16e;1M:1d1b9,1d165,1d16f;1M:1d1ba,1d165,1d16f;1V2aX15V46X7",
  "aV14XcV14XcV57X9V19X87M:61;1M:62;1M:63;1M:64;1M:65;1M:66;1M:67;1M:68;1M:69;1M:6a;1M:6b;1M:6c",
  ";1M:6d;1M:6e;1M:6f;1M:70;1M:71;1M:72;1M:73;1M:74;1M:75;1M:76;1M:77;1M:78;1M:79;1M:7a;1M:61;1",
  "M:62;1M:63;1M:64;1M:65;1M:66;1M:67;1M:68;1M:69;1M:6a;1M:6b;1M:6c;1M:6d;1M:6e;1M:6f;1M:70;1M:",
  "71;1M:72;1M:73;1M:74;1M:75;1M:76;1M:77;1M:78;1M:79;1M:7a;1M:61;1M:62;1M:63;1M:64;1M:65;1M:66",
  ";1M:67;1M:68;1M:69;1M:6a;1M:6b;1M:6c;1M:6d;1M:6e;1M:6f;1M:70;1M:71;1M:72;1M:73;1M:74;1M:75;1",
  "M:76;1M:77;1M:78;1M:79;1M:7a;1M:61;1M:62;1M:63;1M:64;1M:65;1M:66;1M:67;1X1M:69;1M:6a;1M:6b;1",
  "M:6c;1M:6d;1M:6e;1M:6f;1M:70;1M:71;1M:72;1M:73;1M:74;1M:75;1M:76;1M:77;1M:78;1M:79;1M:7a;1M:",
  "61;1M:62;1M:63;1M:64;1M:65;1M:66;1M:67;1M:68;1M:69;1M:6a;1M:6b;1M:6c;1M:6d;1M:6e;1M:6f;1M:70",
  ";1M:71;1M:72;1M:73;1M:74;1M:75;1M:76;1M:77;1M:78;1M:79;1M:7a;1M:61;1M:62;1M:63;1M:64;1M:65;1",
  "M:66;1M:67;1M:68;1M:69;1M:6a;1M:6b;1M:6c;1M:6d;1M:6e;1M:6f;1M:70;1M:71;1M:72;1M:73;1M:74;1M:",
  "75;1M:76;1M:77;1M:78;1M:79;1M:7a;1M:61;1X1M:63;1M:64;1X2M:67;1X2M:6a;1M:6b;1X2M:6e;1M:6f;1M:",
  "70;1M:71;1X1M:73;1M:74;1M:75;1M:76;1M:77;1M:78;1M:79;1M:7a;1M:61;1M:62;1M:63;1M:64;1X1M:66;1",
  "X1M:68;1M:69;1M:6a;1M:6b;1M:6c;1M:6d;1M:6e;1X1M:70;1M:71;1M:72;1M:73;1M:74;1M:75;1M:76;1M:77",
  ";1M:78;1M:79;1M:7a;1M:61;1M:62;1M:63;1M:64;1M:65;1M:66;1M:67;1M:68;1M:69;1M:6a;1M:6b;1M:6c;1",
  "M:6d;1M:6e;1M:6f;1M:70;1M:71;1M:72;1M:73;1M:74;1M:75;1M:76;1M:77;1M:78;1M:79;1M:7a;1M:61;1M:",
  "62;1M:63;1M:64;1M:65;1M:66;1M:67;1M:68;1M:69;1M:6a;1M:6b;1M:6c;1M:6d;1M:6e;1M:6f;1M:70;1M:71",
  ";1M:72;1M:73;1M:74;1M:75;1M:76;1M:77;1M:78;1M:79;1M:7a;1M:61;1M:62;1X1M:64;1M:65;1M:66;1M:67",
  ";1X2M:6a;1M:6b;1M:6c;1M:6d;1M:6e;1M:6f;1M:70;1M:71;1X1M:73;1M:74;1M:75;1M:76;1M:77;1M:78;1M:",
  "79;1X1M:61;1M:62;1M:63;1M:64;1M:65;1M:66;1M:67;1M:68;1M:69;1M:6a;1M:6b;1M:6c;1M:6d;1M:6e;1M:",
  "6f;1M:70;1M:71;1M:72;1M:73;1M:74;1M:75;1M:76;1M:77;1M:78;1M:79;1M:7a;1M:61;1M:62;1X1M:64;1M:",
  "65;1M:66;1M:67;1X1M:69;1M:6a;1M:6b;1M:6c;1M:6d;1X1M:6f;1X3M:73;1M:74;1M:75;1M:76;1M:77;1M:78",
  ";1M:79;1X1M:61;1M:62;1M:63;1M:64;1M:65;1M:66;1M:67;1M:68;1M:69;1M:6a;1M:6b;1M:6c;1M:6d;1M:6e",
  ";1M:6f;1M:70;1M:71;1M:72;1M:73;1M:74;1M:75;1M:76;1M:77;1M:78;1M:79;1M:7a;1M:61;1M:62;1M:63;1",
  "M:64;1M:65;1M:66;1M:67;1M:68;1M:69;1M:6a;1M:6b;1M:6c;1M:6d;1M:6e;1M:6f;1M:70;1M:71;1M:72;1M:",
  "73;1M:74;1M:75;1M:76;1M:77;1M:78;1M:79;1M:7a;1M:61;1M:62;1M:63;1M:64;1M:65;1M:66;1M:67;1M:68",
  ";1M:69;1M:6a;1M:6b;1M:6c;1M:6d;1M:6e;1M:6f;1M:70;1M:71;1M:72;1M:73;1M:74;1M:75;1M:76;1M:77;1",
  "M:78;1M:79;1M:7a;1M:61;1M:62;1M:63;1M:64;1M:65;1M:66;1M:67;1M:68;1M:69;1M:6a;1M:6b;1M:6c;1M:",
  "6d;1M:6e;1M:6f;1M:70;1M:71;1M:72;1M:73;1M:74;1M:75;1M:76;1M:77;1M:78;1M:79;1M:7a;1M:61;1M:62",
  ";1M:63;1M:64;1M:65;1M:66;1M:67;1M:68;1M:69;1M:6a;1M:6b;1M:6c;1M:6d;1M:6e;1M:6f;1M:70;1M:71;1",
  "M:72;1M:73;1M:74;1M:75;1M:76;1M:77;1M:78;1M:79;1M:7a;1M:61;1M:62;1M:63;1M:64;1M:65;1M:66;1M:",
  "67;1M:68;1M:69;1M:6a;1M:6b;1M:6c;1M:6d;1M:6e;1M:6f;1M:70;1M:71;1M:72;1M:73;1M:74;1M:75;1M:76",
  ";1M:77;1M:78;1M:79;1M:7a;1M:61;1M:62;1M:63;1M:64;1M:65;1M:66;1M:67;1M:68;1M:69;1M:6a;1M:6b;1",
  "M:6c;1M:6d;1M:6e;1M:6f;1M:70;1M:71;1M:72;1M:73;1M:74;1M:75;1M:76;1M:77;1M:78;1M:79;1M:7a;1M:",
  "61;1M:62;1M:63;1M:64;1M:65;1M:66;1M:67;1M:68;1M:69;1M:6a;1M:6b;1M:6c;1M:6d;1M:6e;1M:6f;1M:70",
  ";1M:71;1M:72;1M:73;1M:74;1M:75;1M:76;1M:77;1M:78;1M:79;1M:7a;1M:61;1M:62;1M:63;1M:64;1M:65;1",
  "M:66;1M:67;1M:68;1M:69;1M:6a;1M:6b;1M:6c;1M:6d;1M:6e;1M:6f;1M:70;1M:71;1M:72;1M:73;1M:74;1M:",
  "75;1M:76;1M:77;1M:78;1M:79;1M:7a;1M:61;1M:62;1M:63;1M:64;1M:65;1M:66;1M:67;1M:68;1M:69;1M:6a",
  ";1M:6b;1M:6c;1M:6d;1M:6e;1M:6f;1M:70;1M:71;1M:72;1M:73;1M:74;1M:75;1M:76;1M:77;1M:78;1M:79;1",
  "M:7a;1M:61;1M:62;1M:63;1M:64;1M:65;1M:66;1M:67;1M:68;1M:69;1M:6a;1M:6b;1M:6c;1M:6d;1M:6e;1M:",
  "6f;1M:70;1M:71;1M:72;1M:73;1M:74;1M:75;1M:76;1M:77;1M:78;1M:79;1M:7a;1M:61;1M:62;1M:63;1M:64",
  ";1M:65;1M:66;1M:67;1M:68;1M:69;1M:6a;1M:6b;1M:6c;1M:6d;1M:6e;1M:6f;1M:70;1M:71;1M:72;1M:73;1",
  "M:74;1M:75;1M:76;1M:77;1M:78;1M:79;1M:7a;1M:61;1M:62;1M:63;1M:64;1M:65;1M:66;1M:67;1M:68;1M:",
  "69;1M:6a;1M:6b;1M:6c;1M:6d;1M:6e;1M:6f;1M:70;1M:71;1M:72;1M:73;1M:74;1M:75;1M:76;1M:77;1M:78",
  ";1M:79;1M:7a;1M:131;1M:237;1X2M:3b1;1M:3b2;1M:3b3;1M:3b4;1M:3b5;1M:3b6;1M:3b7;1M:3b8;1M:3b9;",
  "1M:3ba;1M:3bb;1M:3bc;1M:3bd;1M:3be;1M:3bf;1M:3c0;1M:3c1;1M:3b8;1M:3c3;1M:3c4;1M:3c5;1M:3c6;1",
  "M:3c7;1M:3c8;1M:3c9;1M:2207;1M:3b1;1M:3b2;1M:3b3;1M:3b4;1M:3b5;1M:3b6;1M:3b7;1M:3b8;1M:3b9;1",
  "M:3ba;1M:3bb;1M:3bc;1M:3bd;1M:3be;1M:3bf;1M:3c0;1M:3c1;1M:3c3;2M:3c4;1M:3c5;1M:3c6;1M:3c7;1M",
  ":3c8;1M:3c9;1M:2202;1M:3b5;1M:3b8;1M:3ba;1M:3c6;1M:3c1;1M:3c0;1M:3b1;1M:3b2;1M:3b3;1M:3b4;1M",
  ":3b5;1M:3b6;1M:3b7;1M:3b8;1M:3b9;1M:3ba;1M:3bb;1M:3bc;1M:3bd;1M:3be;1M:3bf;1M:3c0;1M:3c1;1M:",
  "3b8;1M:3c3;1M:3c4;1M:3c5;1M:3c6;1M:3c7;1M:3c8;1M:3c9;1M:2207;1M:3b1;1M:3b2;1M:3b3;1M:3b4;1M:",
  "3b5;1M:3b6;1M:3b7;1M:3b8;1M:3b9;1M:3ba;1M:3bb;1M:3bc;1M:3bd;1M:3be;1M:3bf;1M:3c0;1M:3c1;1M:3",
  "c3;2M:3c4;1M:3c5;1M:3c6;1M:3c7;1M:3c8;1M:3c9;1M:2202;1M:3b5;1M:3b8;1M:3ba;1M:3c6;1M:3c1;1M:3",
  "c0;1M:3b1;1M:3b2;1M:3b3;1M:3b4;1M:3b5;1M:3b6;1M:3b7;1M:3b8;1M:3b9;1M:3ba;1M:3bb;1M:3bc;1M:3b",
  "d;1M:3be;1M:3bf;1M:3c0;1M:3c1;1M:3b8;1M:3c3;1M:3c4;1M:3c5;1M:3c6;1M:3c7;1M:3c8;1M:3c9;1M:220",
  "7;1M:3b1;1M:3b2;1M:3b3;1M:3b4;1M:3b5;1M:3b6;1M:3b7;1M:3b8;1M:3b9;1M:3ba;1M:3bb;1M:3bc;1M:3bd",
  ";1M:3be;1M:3bf;1M:3c0;1M:3c1;1M:3c3;2M:3c4;1M:3c5;1M:3c6;1M:3c7;1M:3c8;1M:3c9;1M:2202;1M:3b5",
  ";1M:3b8;1M:3ba;1M:3c6;1M:3c1;1M:3c0;1M:3b1;1M:3b2;1M:3b3;1M:3b4;1M:3b5;1M:3b6;1M:3b7;1M:3b8;",
  "1M:3b9;1M:3ba;1M:3bb;1M:3bc;1M:3bd;1M:3be;1M:3bf;1M:3c0;1M:3c1;1M:3b8;1M:3c3;1M:3c4;1M:3c5;1",
  "M:3c6;1M:3c7;1M:3c8;1M:3c9;1M:2207;1M:3b1;1M:3b2;1M:3b3;1M:3b4;1M:3b5;1M:3b6;1M:3b7;1M:3b8;1",
  "M:3b9;1M:3ba;1M:3bb;1M:3bc;1M:3bd;1M:3be;1M:3bf;1M:3c0;1M:3c1;1M:3c3;2M:3c4;1M:3c5;1M:3c6;1M",
  ":3c7;1M:3c8;1M:3c9;1M:2202;1M:3b5;1M:3b8;1M:3ba;1M:3c6;1M:3c1;1M:3c0;1M:3b1;1M:3b2;1M:3b3;1M",
  ":3b4;1M:3b5;1M:3b6;1M:3b7;1M:3b8;1M:3b9;1M:3ba;1M:3bb;1M:3bc;1M:3bd;1M:3be;1M:3bf;1M:3c0;1M:",
  "3c1;1M:3b8;1M:3c3;1M:3c4;1M:3c5;1M:3c6;1M:3c7;1M:3c8;1M:3c9;1M:2207;1M:3b1;1M:3b2;1M:3b3;1M:",
  "3b4;1M:3b5;1M:3b6;1M:3b7;1M:3b8;1M:3b9;1M:3ba;1M:3bb;1M:3bc;1M:3bd;1M:3be;1M:3bf;1M:3c0;1M:3",
  "c1;1M:3c3;2M:3c4;1M:3c5;1M:3c6;1M:3c7;1M:3c8;1M:3c9;1M:2202;1M:3b5;1M:3b8;1M:3ba;1M:3c6;1M:3",
  "c1;1M:3c0;1M:3dd;2X2M:30;1M:31;1M:32;1M:33;1M:34;1M:35;1M:36;1M:37;1M:38;1M:39;1M:30;1M:31;1",
  "M:32;1M:33;1M:34;1M:35;1M:36;1M:37;1M:38;1M:39;1M:30;1M:31;1M:32;1M:33;1M:34;1M:35;1M:36;1M:",
  "37;1M:38;1M:39;1M:30;1M:31;1M:32;1M:33;1M:34;1M:35;1M:36;1M:37;1M:38;1M:39;1M:30;1M:31;1M:32",
  ";1M:33;1M:34;1M:35;1M:36;1M:37;1M:38;1M:39;1V28cXfV5X1VfX450V1fX6V6Xd5V7X1V11X2V7X1V2X1V5X5M",
  ":430;1M:431;1M:432;1M:433;1M:434;1M:435;1M:436;1M:437;1M:438;1M:43a;1M:43b;1M:43c;1M:43e;1M:",
  "43f;1M:440;1M:441;1M:442;1M:443;1M:444;1M:445;1M:446;1M:447;1M:448;1M:44b;1M:44d;1M:44e;1M:a",
  "689;1M:4d9;1M:456;1M:458;1M:4e9;1M:4af;1M:4cf;1M:430;1M:431;1M:432;1M:433;1M:434;1M:435;1M:4",
  "36;1M:437;1M:438;1M:43a;1M:43b;1M:43e;1M:43f;1M:441;1M:443;1M:444;1M:445;1M:446;1M:447;1M:44",
  "8;1M:44a;1M:44b;1M:491;1M:456;1M:455;1M:45f;1M:4ab;1M:a651;1M:4b1;1X21V1X70V2dX3VeX2VaX4V2X1",
  "40V1fX11V3aX5V1X1d0V2aXd6V2bX4V1Xc0V1fX1V16X8V2Xe0V7X1V4X1V2X1VfX1Vc5X2V10X29M:1e922;1M:1e92",
  "3;1M:1e924;1M:1e925;1M:1e926;1M:1e927;1M:1e928;1M:1e929;1M:1e92a;1M:1e92b;1M:1e92c;1M:1e92d;",
  "1M:1e92e;1M:1e92f;1M:1e930;1M:1e931;1M:1e932;1M:1e933;1M:1e934;1M:1e935;1M:1e936;1M:1e937;1M",
  ":1e938;1M:1e939;1M:1e93a;1M:1e93b;1M:1e93c;1M:1e93d;1M:1e93e;1M:1e93f;1M:1e940;1M:1e941;1M:1",
  "e942;1M:1e943;1V2aX4VaX4V2X311V44X4cV3dXc2M:627;1M:628;1M:62c;1M:62f;1X1M:648;1M:632;1M:62d;",
  "1M:637;1M:64a;1M:643;1M:644;1M:645;1M:646;1M:633;1M:639;1M:641;1M:635;1M:642;1M:631;1M:634;1",
  "M:62a;1M:62b;1M:62e;1M:630;1M:636;1M:638;1M:63a;1M:66e;1M:6ba;1M:6a1;1M:66f;1X1M:628;1M:62c;",
  "1X1M:647;1X2M:62d;1X1M:64a;1M:643;1M:644;1M:645;1M:646;1M:633;1M:639;1M:641;1M:635;1M:642;1X",
  "1M:634;1M:62a;1M:62b;1M:62e;1X1M:636;1X1M:63a;1X6M:62c;1X4M:62d;1X1M:64a;1X1M:644;1X1M:646;1",
  "M:633;1M:639;1X1M:635;1M:642;1X1M:634;1X2M:62e;1X1M:636;1X1M:63a;1X1M:6ba;1X1M:66f;1X1M:628;",
  "1M:62c;1X1M:647;1X2M:62d;1M:637;1M:64a;1M:643;1X1M:645;1M:646;1M:633;1M:639;1M:641;1M:635;1M",
  ":642;1X1M:634;1M:62a;1M:62b;1M:62e;1X1M:636;1M:638;1M:63a;1M:66e;1X1M:6a1;1X1M:627;1M:628;1M",
  ":62c;1M:62f;1M:647;1M:648;1M:632;1M:62d;1M:637;1M:64a;1X1M:644;1M:645;1M:646;1M:633;1M:639;1",
  "M:641;1M:635;1M:642;1M:631;1M:634;1M:62a;1M:62b;1M:62e;1M:630;1M:636;1M:638;1M:63a;1X5M:628;",
  "1M:62c;1M:62f;1X1M:648;1M:632;1M:62d;1M:637;1M:64a;1X1M:644;1M:645;1M:646;1M:633;1M:639;1M:6",
  "41;1M:635;1M:642;1M:631;1M:634;1M:62a;1M:62b;1M:62e;1M:630;1M:636;1M:638;1M:63a;1X34V2X10eV2",
  "cX4V64XcVfX2VfX1VfX1V25XbM:30,2c;1M:31,2c;1M:32,2c;1M:33,2c;1M:34,2c;1M:35,2c;1M:36,2c;1M:37",
  ",2c;1M:38,2c;1M:39,2c;1V5M:28,61,29;1M:28,62,29;1M:28,63,29;1M:28,64,29;1M:28,65,29;1M:28,66",
  ",29;1M:28,67,29;1M:28,68,29;1M:28,69,29;1M:28,6a,29;1M:28,6b,29;1M:28,6c,29;1M:28,6d,29;1M:2",
  "8,6e,29;1M:28,6f,29;1M:28,70,29;1M:28,71,29;1M:28,72,29;1M:28,73,29;1M:28,74,29;1M:28,75,29;",
  "1M:28,76,29;1M:28,77,29;1M:28,78,29;1M:28,79,29;1M:28,7a,29;1M:3014,73,3015;1M:63;1M:72;1M:6",
  "3,64;1M:77,7a;1V1M:61;1M:62;1M:63;1M:64;1M:65;1M:66;1M:67;1M:68;1M:69;1M:6a;1M:6b;1M:6c;1M:6",
  "d;1M:6e;1M:6f;1M:70;1M:71;1M:72;1M:73;1M:74;1M:75;1M:76;1M:77;1M:78;1M:79;1M:7a;1M:68,76;1M:",
  "6d,76;1M:73,64;1M:73,73;1M:70,70,76;1M:77,63;1V1aM:6d,63;1M:6d,64;1M:6d,72;1V23M:64,6a;1V1dX",
  "38V1aM:307b,304b;1M:30b3,30b3;1M:30b5;1XdM:624b;1M:5b57;1M:53cc;1M:30c7;1M:4e8c;1M:591a;1M:8",
  "9e3;1M:5929;1M:4ea4;1M:6620;1M:7121;1M:6599;1M:524d;1M:5f8c;1M:518d;1M:65b0;1M:521d;1M:7d42;",
  "1M:751f;1M:8ca9;1M:58f0;1M:5439;1M:6f14;1M:6295;1M:6355;1M:4e00;1M:4e09;1M:904a;1M:5de6;1M:4",
  "e2d;1M:53f3;1M:6307;1M:8d70;1M:6253;1M:7981;1M:7a7a;1M:5408;1M:6e80;1M:6709;1M:6708;1M:7533;",
  "1M:5272;1M:55b6;1M:914d;1X4M:3014,672c,3015;1M:3014,4e09,3015;1M:3014,4e8c,3015;1M:3014,5b89",
  ",3015;1M:3014,70b9,3015;1M:3014,6253,3015;1M:3014,76d7,3015;1M:3014,52dd,3015;1M:3014,6557,3",
  "015;1X7M:5f97;1M:53ef;1XeV6X9aV3d9X3V11X3VdX3VdaX6VcX4V1XfVcX4V38X8VaX6V28X8V1eX2VcX4V2XeV9X",
  "27V158X8VeX2VdX3VbX3V39X1V1X4V10X2VcX4VaX7V93X1V5cM:30;1M:31;1M:32;1M:33;1M:34;1M:35;1M:36;1",
  "M:37;1M:38;1M:39;1V1X405Va6e0X20V111eX2V168eX2V1d31XfV26eX9a2M:4e3d;1M:4e38;1M:4e41;1M:20122",
  ";1M:4f60;1M:4fae;1M:4fbb;1M:5002;1M:507a;1M:5099;1M:50e7;1M:50cf;1M:349e;1M:2063a;1M:514d;1M",
  ":5154;1M:5164;1M:5177;1M:2051c;1M:34b9;1M:5167;1M:518d;1M:2054b;1M:5197;1M:51a4;1M:4ecc;1M:5",
  "1ac;1M:51b5;1M:291df;1M:51f5;1M:5203;1M:34df;1M:523b;1M:5246;1M:5272;1M:5277;1M:3515;1M:52c7",
  ";1M:52c9;1M:52e4;1M:52fa;1M:5305;1M:5306;1M:5317;1M:5349;1M:5351;1M:535a;1M:5373;1M:537d;1M:",
  "537f;3M:20a2c;1M:7070;1M:53ca;1M:53df;1M:20b63;1M:53eb;1M:53f1;1M:5406;1M:549e;1M:5438;1M:54",
  "48;1M:5468;1M:54a2;1M:54f6;1M:5510;1M:5553;1M:5563;1M:5584;2M:5599;1M:55ab;1M:55b3;1M:55c2;1",
  "M:5716;1M:5606;1M:5717;1M:5651;1M:5674;1M:5207;1M:58ee;1M:57ce;1M:57f4;1M:580d;1M:578b;1M:58",
  "32;1M:5831;1M:58ac;1M:214e4;1M:58f2;1M:58f7;1M:5906;1M:591a;1M:5922;1M:5962;1M:216a8;1M:216e",
  "a;1M:59ec;1M:5a1b;1M:5a27;1M:59d8;1M:5a66;1M:36ee;1M:36fc;1M:5b08;1M:5b3e;2M:219c8;1M:5bc3;1",
  "M:5bd8;1M:5be7;1M:5bf3;1M:21b18;1M:5bff;1M:5c06;1M:5f53;1M:5c22;1M:3781;1M:5c60;1M:5c6e;1M:5",
  "cc0;1M:5c8d;1M:21de4;1M:5d43;1M:21de6;1M:5d6e;1M:5d6b;1M:5d7c;1M:5de1;1M:5de2;1M:382f;1M:5df",
  "d;1M:5e28;1M:5e3d;1M:5e69;1M:3862;1M:22183;1M:387c;1M:5eb0;1M:5eb3;1M:5eb6;1M:5eca;1M:2a392;",
  "1M:5efe;1M:22331;2M:8201;1M:5f22;2M:38c7;1M:232b8;1M:261da;1M:5f62;1M:5f6b;1M:38e3;1M:5f9a;1",
  "M:5fcd;1M:5fd7;1M:5ff9;1M:6081;1M:393a;1M:391c;1M:6094;1M:226d4;1M:60c7;1M:6148;1M:614c;1M:6",
  "14e;1M:614c;1M:617a;1M:618e;1M:61b2;1M:61a4;1M:61af;1M:61de;1M:61f2;1M:61f6;1M:6210;1M:621b;",
  "1M:625d;1M:62b1;1M:62d4;1M:6350;1M:22b0c;1M:633d;1M:62fc;1M:6368;1M:6383;1M:63e4;1M:22bf1;1M",
  ":6422;1M:63c5;1M:63a9;1M:3a2e;1M:6469;1M:647e;1M:649d;1M:6477;1M:3a6c;1M:654f;1M:656c;1M:230",
  "0a;1M:65e3;1M:66f8;1M:6649;1M:3b19;1M:6691;1M:3b08;1M:3ae4;1M:5192;1M:5195;1M:6700;1M:669c;1",
  "M:80ad;1M:43d9;1M:6717;1M:671b;1M:6721;1M:675e;1M:6753;1M:233c3;1M:3b49;1M:67fa;1M:6785;1M:6",
  "852;1M:6885;1M:2346d;1M:688e;1M:681f;1M:6914;1M:3b9d;1M:6942;1M:69a3;1M:69ea;1M:6aa8;1M:236a",
  "3;1M:6adb;1M:3c18;1M:6b21;1M:238a7;1M:6b54;1M:3c4e;1M:6b72;1M:6b9f;1M:6bba;1M:6bbb;1M:23a8d;",
  "1M:21d0b;1M:23afa;1M:6c4e;1M:23cbc;1M:6cbf;1M:6ccd;1M:6c67;1M:6d16;1M:6d3e;1M:6d77;1M:6d41;1",
  "M:6d69;1M:6d78;1M:6d85;1M:23d1e;1M:6d34;1M:6e2f;1M:6e6e;1M:3d33;1M:6ecb;1M:6ec7;1M:23ed1;1M:",
  "6df9;1M:6f6e;1M:23f5e;1M:23f8e;1M:6fc6;1M:7039;1M:701e;1M:701b;1M:3d96;1M:704a;1M:707d;1M:70",
  "77;1M:70ad;1M:20525;1M:7145;1M:24263;1M:719c;1M:243ab;1M:7228;1M:7235;1M:7250;1M:24608;1M:72",
  "80;1M:7295;1M:24735;1M:24814;1M:737a;1M:738b;1M:3eac;1M:73a5;1M:3eb8;2M:7447;1M:745c;1M:7471",
  ";1M:7485;1M:74ca;1M:3f1b;1M:7524;1M:24c36;1M:753e;1M:24c92;1M:7570;1M:2219f;1M:7610;1M:24fa1",
  ";1M:24fb8;1M:25044;1M:3ffc;1M:4008;1M:76f4;1M:250f3;1M:250f2;1M:25119;1M:25133;1M:771e;1M:77",
  "1f;2M:774a;1M:4039;1M:778b;1M:4046;1M:4096;1M:2541d;1M:784e;1M:788c;1M:78cc;1M:40e3;1M:25626",
  ";1M:7956;1M:2569a;1M:256c5;1M:798f;1M:79eb;1M:412f;1M:7a40;1M:7a4a;1M:7a4f;1M:2597c;1M:25aa7",
  ";2M:7aee;1M:4202;1M:25bab;1M:7bc6;1M:7bc9;1M:4227;1M:25c80;1M:7cd2;1M:42a0;1M:7ce8;1M:7ce3;1",
  "M:7d00;1M:25f86;1M:7d63;1M:4301;1M:7dc7;1M:7e02;1M:7e45;1M:4334;1M:26228;1M:26247;1M:4359;1M",
  ":262d9;1M:7f7a;1M:2633e;1M:7f95;1M:7ffa;1M:8005;1M:264da;1M:26523;1M:8060;1M:265a8;1M:8070;1",
  "M:2335f;1M:43d5;1M:80b2;1M:8103;1M:440b;1M:813e;1M:5ab5;1M:267a7;1M:267b5;1M:23393;1M:2339c;",
  "1M:8201;1M:8204;1M:8f9e;1M:446b;1M:8291;1M:828b;1M:829d;1M:52b3;1M:82b1;1M:82b3;1M:82bd;1M:8",
  "2e6;1M:26b3c;1M:82e5;1M:831d;1M:8363;1M:83ad;1M:8323;1M:83bd;1M:83e7;1M:8457;1M:8353;1M:83ca",
  ";1M:83cc;1M:83dc;1M:26c36;1M:26d6b;1M:26cd5;1M:452b;1M:84f1;1M:84f3;1M:8516;1M:273ca;1M:8564",
  ";1M:26f2c;1M:455d;1M:4561;1M:26fb1;1M:270d2;1M:456b;1M:8650;1M:865c;1M:8667;1M:8669;1M:86a9;",
  "1M:8688;1M:870e;1M:86e2;1M:8779;1M:8728;1M:876b;1M:8786;1M:45d7;1M:87e1;1M:8801;1M:45f9;1M:8",
  "860;1M:8863;1M:27667;1M:88d7;1M:88de;1M:4635;1M:88fa;1M:34bb;1M:278ae;1M:27966;1M:46be;1M:46",
  "c7;1M:8aa0;1M:8aed;1M:8b8a;1M:8c55;1M:27ca8;1M:8cab;1M:8cc1;1M:8d1b;1M:8d77;1M:27f2f;1M:2080",
  "4;1M:8dcb;1M:8dbc;1M:8df0;1M:208de;1M:8ed4;1M:8f38;1M:285d2;1M:285ed;1M:9094;1M:90f1;1M:9111",
  ";1M:2872e;1M:911b;1M:9238;1M:92d7;1M:92d8;1M:927c;1M:93f9;1M:9415;1M:28bfa;1M:958b;1M:4995;1",
  "M:95b7;1M:28d77;1M:49e6;1M:96c3;1M:5db2;1M:9723;1M:29145;1M:2921a;1M:4a6e;1M:4a76;1M:97e0;1M",
  ":2940a;1M:4ab2;1M:29496;1M:980b;2M:9829;1M:295b6;1M:98e2;1M:4b33;1M:9929;1M:99a7;1M:99c2;1M:",
  "99fe;1M:4bce;1M:29b30;1M:9b12;1M:9c40;1M:9cfd;1M:4cce;1M:4ced;1M:9d67;1M:2a0ce;1M:4cf8;1M:2a",
  "105;1M:2a20e;1M:2a291;1M:9ebb;1M:4d56;1M:9ef9;1M:9efe;1M:9f05;1M:9f0f;1M:9f16;1M:9f3b;1M:2a6",
  "00;1X5e2V134bX5V212aXacc86M:;f0X"]

/-- The mapping of domain names, as a range table. -/
def idnaMapping : RangeTable := RangeTable.decode idnaMappingText

/-- **The status of a character** in the mapping of domain names. -/
def idnaStatus (c : Char) : IdnaStatus :=
  match idnaMapping.find? c.toNat with
  | some e =>
    if e.tag = 'V' then .valid
    else if e.tag = 'M' then .mapped (e.values.map Char.ofNat)
    else .disallowed
  | none => .disallowed

/-- Whether a character may stand in a domain name as it is. -/
def isIdnaValid (c : Char) : Bool := idnaStatus c == .valid

end RoutePlanner.Unicode
