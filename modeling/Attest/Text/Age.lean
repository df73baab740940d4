import Attest.Text.CharSet

/-!
The version of Unicode in which a character was added.
-/

namespace Attest

/-- The code points from zero on as runs of one version, the versions counted by small letters, with `za` behind `z`;
`zz` stands for later ones and for no character. -/
def ageRuns : List (String × Nat) := CharSet.labelledRuns
  ["a502 d4 a30 d8 f1 g1 d18 g3 h11 i14 a89 d5 g2 a47 d1 a10 d5 g17 a70 d9 f1 g8 h5 g3 a2 d1 f13 j4 a2 j2 zz2",
   "a1 i3 a1 p1 zz4 a7 zz1 a1 zz1 a20 zz1 a44 j1 a7 d1 f2 a1 d1 a1 d1 a1 d1 a1 d1 a18 e2 f1 g5 h4 d1 a12 d1",
   "a66 d1 a12 d1 a41 j1 d2 f2 d4 a53 f2 a2 f2 a2 f2 i1 a28 d2 a8 h2 a2 i6 f16 i4 j16 k2 l2 p8 zz1 a38 zz2 a7",
   "t1 a39 t1 a1 d1 zz2 p2 m1 zz1 b17 h1 b13 a10 i1 a9 b1 h3 zz8 a27 zz4 t1 a5 zz11 g4 m1 p1 j5 h1 a1 g9 j5 a1",
   "o1 x1 h1 a1 l1 a26 j5 a19 d3 g3 h6 l1 a14 f2 a72 d2 a5 d1 a15 d1 a30 g2 a10 d5 g1 d14 zz1 d30 g3 d27 zz2",
   "g3 h30 j18 d49 f1 zz14 i59 zz2 t3 k46 zz2 k15 zz1 l28 zz2 l1 zz1 s11 zz5 x31 zz1 x2 zz5 za1 x8 m1 p1 m11",
   "p6 q2 x1 r8 w10 x11 t1 r15 q1 m27 p1 k1 a3 g1 a53 l2 a18 k1 l1 a5 k1 l2 a25 j2 l5 p1 k2 i2 h1 i2 p1 a3 zz1",
   "a8 zz2 a2 zz2 a22 zz1 a7 zz1 a1 zz3 a4 zz2 a1 g1 a7 zz2 a2 zz2 a3 h1 zz8 a1 zz4 a2 zz1 a5 zz2 a21 k1 s2 t1",
   "zz2 g1 a1 g1 zz1 a6 zz4 a2 zz2 a22 zz1 a7 zz1 a2 zz1 a2 zz1 a2 zz2 a1 zz1 a5 zz4 a2 zz2 a3 zz3 j1 zz7 a4",
   "zz1 a1 zz7 a15 j1 t1 zz10 a3 zz1 a7 g1 a1 zz1 a3 zz1 a22 zz1 a7 zz1 a2 zz1 a5 zz2 a10 zz1 a3 zz1 a3 zz2 a1",
   "zz15 a1 g3 zz2 a10 m1 g1 zz7 q1 s6 zz1 a3 zz1 a8 zz2 a2 zz2 a22 zz1 a7 zz1 a2 zz1 g1 a4 zz2 a8 j1 zz2 a2",
   "zz2 a3 zz7 w1 a2 zz4 a2 zz1 a3 j2 zz2 a11 g1 l6 zz10 a2 zz1 a6 zz3 a3 zz1 a4 zz3 a2 zz1 a1 zz1 a2 zz3 a2",
   "zz3 a3 zz3 a8 h1 a3 zz4 a5 zz3 a3 zz1 a4 zz2 j1 zz6 a1 zz14 h1 a12 g8 zz5 p1 a3 t1 a8 zz1 a3 zz1 a23 zz1",
   "a10 p1 a5 zz2 x1 j1 a7 zz1 a3 zz1 a4 zz7 a2 zz1 j2 q1 zz2 x1 zz2 a2 j2 zz2 a10 zz7 u1 j8 r1 p1 a2 t1 a8",
   "zz1 a3 zz1 a23 zz1 a10 zz1 a5 zz2 g2 a7 zz1 a3 zz1 a4 zz7 a2 zz6 x1 a1 zz1 a2 i2 zz2 a10 zz1 i2 y1 zz12 s1",
   "p1 a2 w1 a8 zz1 a3 zz1 a23 l1 a16 l1 s2 j1 a6 j1 zz1 a3 zz1 a4 l1 r1 zz4 r3 a1 r7 q1 a2 j2 zz2 a10 j6 r3",
   "j7 zz1 w1 d2 zz1 d18 zz3 d24 zz1 d9 zz1 d1 zz2 d7 zz3 d1 zz4 d6 zz1 d1 zz1 d8 zz6 p10 zz2 d3 zz12 a58 zz4",
   "a29 zz37 a2 zz1 a1 zz1 u1 a2 u1 a1 zz1 u1 a1 u6 a4 u1 a7 u1 a3 zz1 a1 zz1 a1 u2 a2 u1 a13 u1 a3 zz2 a5 zz1",
   "a1 zz1 a6 y1 zz1 a10 zz2 a2 m2 zz32 b72 zz1 b33 d1 j2 zz4 b27 l4 b6 d1 b1 zz1 b21 d3 b7 d1 b1 d3 zz1 d15",
   "zz1 j1 d1 h2 j3 k4 l2 zz37 d34 j1 d5 j1 d2 j1 d7 j3 d4 j6 d26 j64 k4 j2 a38 zz1 m1 zz5 m1 zz2 a39 f2 h2 a1",
   "h1 m3 a90 k5 a68 k5 a82 k6 d7 h1 d63 h1 d1 zz1 d4 zz2 d7 zz1 d1 zz1 d4 zz2 d39 h1 d1 zz1 d4 zz2 d31 h1 d1",
   "zz1 d4 zz2 d7 zz1 d1 zz1 d4 zz2 d7 h1 d7 zz1 d23 h1 d31 h1 d1 zz1 d4 zz2 d7 h1 d39 h1 d19 zz2 l2 h2 d28",
   "zz3 h26 zz6 d85 q1 zz2 q6 zz2 k1 d630 k9 d29 zz3 d81 p8 zz7 f13 x1 f7 x1 zz9 x1 f23 zz9 f20 zz12 f13 zz1",
   "f3 zz1 f2 zz12 d93 g1 zz2 d10 zz6 g10 zz6 d15 x1 d10 zz6 d88 t1 zz7 d42 j1 zz5 k70 zz10 g29 p2 zz1 g12 zz4",
   "g12 zz4 g1 zz3 g42 zz2 g5 zz11 h42 k2 zz4 h26 zz6 h10 k1 zz3 h2 g32 h28 zz2 h2 k63 zz1 k29 zz2 k11 zz6 k10",
   "zz6 k14 zz2 p15 w2 x14 zz49 i76 x1 zz1 za2 i45 x2 za1 j43 m3 j12 m6 l52 zz8 l4 j56 zz3 j15 zz3 j51 r9 za2",
   "zz5 t43 zz2 t3 m8 zz8 k35 m4 s1 p2 u1 zz5 g108 h88 i7 j28 p15 s4 x1 r1 l1 k1 i2 a155 b1 j4 a90 j6 a22 zz2",
   "a6 zz2 a38 zz2 a6 zz2 a8 zz1 a1 zz1 a1 zz1 a1 zz1 a31 zz2 a53 zz1 a15 zz1 a14 zz2 a6 zz1 a19 zz2 a3 zz1 a9",
   "zz1 a47 d1 a23 f1 d6 f5 g2 h2 f1 h7 f5 j1 zz1 o4 a7 f1 zz2 a27 zz1 h5 l8 zz3 a11 b1 c1 d3 f2 h4 k3 l1 n1",
   "p3 q1 s1 x1 zz15 a18 d2 f7 h1 i4 j1 zz15 a57 d2 g1 h1 f15 h1 i2 j1 k3 a48 d1 i1 j4 k1 q2 zz4 a91 d9 f12",
   "a242 f14 a1 d1 a121 d1 f1 d30 f52 g2 h11 i12 k1 l11 p7 r4 s1 a37 d2 za3 zz22 a11 zz21 a139 f20 g1 a150 f10",
   "a80 d8 f8 a20 g2 f2 h1 d1 a86 d2 f12 h2 f10 g8 h11 j1 k2 g2 h16 i1 j10 k3 j4 k10 l1 k19 l1 k1 l4 k24 p1 a4",
   "l1 a4 l2 a28 l1 a35 l1 a1 l1 a4 l3 a1 k1 a7 l2 a7 f14 a31 l3 a24 l1 a14 l1 h7 i4 m1 j1 m1 l2 f28 j4 f16",
   "d256 f512 g14 h6 i7 j5 i4 j41 p3 j5 k5 p26 zz2 p32 zz1 w1 p34 t3 p12 u1 p8 s1 t25 q4 t15 u1 h47 x1 h47 x1",
   "i13 j3 k1 j3 i4 j6 k2 h107 k7 m2 zz5 h45 zz1 m1 zz5 m1 zz2 h54 m2 zz7 h1 l1 zz14 l1 h23 zz9 h7 zz1 h7 zz1",
   "h7 zz1 h7 zz1 h7 zz1 h7 zz1 h7 zz1 h7 zz1 j32 h24 j4 h2 j19 k1 m10 p7 r2 s5 t5 u1 w3 x11 zz34 d26 zz1 d89",
   "zz12 d214 zz26 d12 z4 a56 d3 f3 d1 a1 zz1 a84 f2 zz2 a6 f2 a94 f1 zz5 a40 j1 s1 t1 zz1 a94 zz1 a16 d24 l3",
   "w5 h16 j20 za2 zz9 z1 f16 a29 g2 zz1 a36 k12 g1 f15 a28 g2 h1 a50 f15 a12 g4 a47 v1 a119 g4 a99 g2 a31 g1",
   "d6582 w10 g64 a20902 h22 j8 k8 m1 q9 s21 t5 w13 x3 d1165 zz3 d18 f2 d16 f1 d12 f1 d3 f1 d1 zz9 k48 j300",
   "zz20 j32 l2 j18 m8 j28 p6 q1 m1 k88 zz8 h23 i4 j5 i2 j107 l2 q1 l2 m2 p12 l10 m1 p3 r1 t1 p2 q6 t2 u6 x2",
   "u5 w4 za3 zz2 x2 zz1 x1 zz1 x5 za3 zz21 x3 w2 p1 m2 l1 j5 h44 w1 zz3 k10 zz6 i56 zz8 j69 r1 zz8 j12 zz6",
   "k28 q2 t2 j84 zz11 j1 k29 zz3 k78 zz1 k11 zz4 k2 p31 zz1 j55 zz9 j14 zz2 j10 zz2 j4 k28 p4 k67 zz24 k5 m23",
   "zz10 l6 zz2 l6 zz2 l6 zz9 l7 zz1 l7 zz1 p48 q4 p2 u2 w4 zz4 q80 k46 zz2 k10 zz6 b11172 zz12 k23 zz4 k49",
   "zz4 b2048 a6702 m2 f59 k3 zz2 h106 zz38 a7 zz12 a5 zz5 d1 a25 zz1 a5 zz1 a1 zz1 a2 zz1 a2 zz1 a108 l16 x1",
   "zz16 a365 x16 a64 zz2 a54 zz7 x1 e32 a12 f1 g1 x2 f16 h10 zz6 a4 j3 p7 q2 a21 f2 g2 a10 zz1 a19 zz1 a4 zz4",
   "a3 f1 a1 zz1 a135 zz2 a1 zz1 a94 f2 a94 zz3 a6 zz2 a6 zz2 a6 zz2 a3 zz3 a7 zz1 a7 zz10 d3 c1 a3 g12 zz1",
   "g26 zz1 g19 zz1 g2 zz1 g15 zz2 g14 zz34 g123 zz5 g3 zz4 g45 zz3 g9 h75 p2 r2 zz1 j12 w1 zz3 p1 zz47 j46",
   "zz130 j29 zz3 j49 zz15 p28 zz4 e31 p1 e4 zz9 s3 e27 zz5 p43 zz5 g30 zz1 g1 h36 zz4 h14 zz42 e38 g2 e38 g80",
   "zz2 g10 zz6 r36 zz4 r36 zz4 p40 zz8 p52 zz11 p1 x11 zz1 x15 zz1 x7 zz1 x2 zz1 x11 zz1 x15 zz1 x7 zz1 x2",
   "zz3 za52 zz12 p311 zz9 p22 zz10 p8 zz24 x6 zz1 x42 zz1 x9 zz69 g6 zz2 g1 zz1 g44 zz1 g2 zz3 g1 zz2 g1 k22",
   "zz1 k9 p63 zz8 p9 zz48 q19 zz1 q2 zz5 q5 i26 k2 zz3 i1 j26 zz5 j1 zz64 m56 zz4 q2 m2 q16 zz2 q46 h4 zz1 h2",
   "zz5 h8 zz1 h3 zz1 h27 t2 zz2 h3 zz4 h9 t1 zz7 h9 zz7 k32 p32 zz32 p39 zz4 p12 zz9 k54 zz3 k29 zz2 k27 zz5",
   "k8 p18 zz7 p4 zz12 p7 zz80 k73 zz55 q51 zz13 q51 zz7 q6 t40 zz8 t10 zz6 za38 zz3 za29 zz8 za2 zz208 k31",
   "zz1 w42 zz1 w3 zz2 w2 zz16 za3 zz55 za1 y3 t40 zz8 t42 zz22 x26 zz38 w28 zz20 u23 zz9 l78 zz4 l30 x6 zz9",
   "p1 k66 x1 zz10 t1 zz2 m25 zz7 m10 zz6 m53 zz1 m14 t3 w1 zz8 p39 zz9 m73 q4 p1 w2 m10 p1 q5 zz1 p20 zz11",
   "p18 zz1 p43 r1 y3 zz62 q7 zz1 q1 zz1 q4 zz1 q15 zz1 q11 zz6 p59 zz5 p10 zz6 q1 p3 zz1 p8 zz2 p2 zz2 p22",
   "zz1 p7 zz1 p2 zz1 p5 zz1 t1 p9 zz2 p2 zz2 p3 zz2 q1 zz6 p1 zz5 p7 zz2 p7 zz3 p5 zz11 za10 zz1 za1 zz2 za1",
   "zz1 za38 zz1 za10 zz1 za1 zz2 za1 zz1 za4 zz1 za10 zz1 za2 zz8 za2 zz29 r90 w1 r1 zz1 r1 t1 u1 w2 zz30 p72",
   "zz8 p10 zz166 p54 zz2 p18 q20 zz34 p69 zz11 p10 zz6 r13 zz19 m56 u1 x1 zz6 m10 zz6 za20 zz28 q26 t1 zz2",
   "q15 zz4 q16 x7 zz185 t60 zz100 p83 zz12 p1 w7 zz2 w1 zz2 w8 zz1 w2 zz1 w30 zz1 w2 zz2 w12 zz9 w10 zz70 u8",
   "zz2 u46 zz2 u11 zz27 s72 zz8 s52 u2 s23 t1 s5 zz13 x16 p57 zz7 y10 zz182 za34 zz14 za10 zz6 r9 zz1 r45 zz1",
   "r14 zz10 r29 zz3 r32 zz2 r22 zz1 r14 zz73 s7 zz1 s2 zz1 s44 zz3 s1 zz1 s2 zz1 s9 zz8 s10 zz6 t6 zz1 t2 zz1",
   "t37 zz1 t2 zz1 t6 zz7 t10 zz310 t25 zz7 y17 zz1 y41 zz3 y28 za1 zz85 w1 zz15 u50 zz13 u1 i879 p42 q1 zz102",
   "i99 p12 zz1 i4 p1 zz11 q196 zz2636 x99 zz13 k1071 y1 u9 y29 zz10 za3995 zz5 q583 zz6841 za58 zz1734 l569",
   "zz7 p31 zz1 p10 zz4 p2 x79 zz1 x10 zz6 p30 zz2 p6 zz10 p70 zz10 p10 zz1 p7 zz1 p21 zz5 p19 zz432 za58",
   "zz198 t91 zz101 m69 u6 zz4 u1 m47 u9 zz7 m17 zz64 r1 s1 u2 w1 zz11 w2 zz14 r6125 t5 u6 zz8 r755 w483 zz41",
   "za1 w9 zz8935 x4 zz1 x7 zz1 x2 zz1 l2 s285 x4 zz15 y1 zz29 u3 zz2 y1 zz14 u4 zz8 s396 zz2308 p107 zz5 p13",
   "zz3 p9 zz7 p10 zz2 p8 zz3932 za250 zz6 za436 zz76 x46 zz2 x23 zz9 x116 zz60 e246 zz10 e39 zz2 j1 e180 q11",
   "x2 zz21 h70 zz122 y20 zz12 t20 zz12 g87 zz9 i18 t7 zz135 e85 zz1 e71 zz1 e2 zz2 e1 zz2 e2 zz2 e4 zz1 e12",
   "zz1 e1 zz1 e4 g1 e2 zz1 e65 zz1 e4 zz2 e8 zz1 e7 zz1 e28 zz1 e4 zz1 e5 zz1 e1 zz3 e7 zz1 e338 h2 zz2 e290",
   "i2 zz2 e50 q652 zz15 q5 zz1 q15 zz1104 x31 zz6 y6 zz213 r7 zz1 r17 zz2 r7 zz1 r2 zz1 r5 zz5 y62 zz33 y1",
   "zz112 u45 zz3 u14 zz2 u10 zz4 u2 zz320 x31 zz17 u58 zz5 u1 zz464 y42 zz214 za43 zz4 za1 zz480 x7 zz1 x4",
   "zz1 x2 zz1 x15 zz1 p197 zz2 p16 zz41 r75 u1 zz4 r10 zz4 r2 zz785 t68 zz76 u61 zz194 m4 zz1 m27 zz1 m2 zz1",
   "m1 zz2 m1 zz1 m10 zz1 m4 zz1 m1 zz1 m1 zz6 m1 zz4 m1 zz1 m1 zz1 m1 zz1 m3 zz1 m2 zz1 m1 zz2 m1 zz1 m1 zz1",
   "m1 zz1 m1 zz1 m1 zz1 m2 zz1 m1 zz2 m4 zz1 m7 zz1 m4 zz1 m4 zz1 m1 zz1 m10 zz1 m17 zz5 m3 zz1 m5 zz1 m17",
   "zz52 m2 zz270 j44 zz4 j100 zz12 l15 zz2 l14 p1 zz1 l15 zz1 l15 p22 zz10 k11 p2 w3 k31 t1 l1 k1 l11 k1 l1",
   "k1 l2 k1 l3 k1 l3 k5 l8 k1 l7 k1 l10 m2 u1 w3 l9 k1 l1 k2 l2 k1 l10 k4 l2 k1 l10 r18 w1 zz56 l26 k1 l2",
   "zz13 k34 l9 r1 zz4 k9 zz7 l2 zz14 s6 zz154 l33 p12 q3 l6 p1 l70 p1 q2 l20 p12 l37 p1 l5 p4 q5 p12 l17 p7",
   "q8 l63 p1 l1 p1 l182 p1 l4 p2 q1 l62 p2 m4 p7 q5 l24 p18 r1 p41 r1 p86 l5 m1 l16 m1 l3 m1 l1 m1 l1 m1 l1",
   "m1 l3 m1 l6 m2 l4 m1 l1 m2 l4 m1 l12 p2 q2 l11 p48 l70 p10 q1 r2 s2 u1 w2 zz4 y1 x3 p13 zz3 p4 r3 s2 t1 u1",
   "w2 zz3 l116 y3 zz4 y5 p85 t4 y1 zz6 u12 zz4 x1 zz15 p12 zz4 p56 zz8 p10 zz6 p40 zz8 p30 zz2 w2 za10 zz4",
   "za2 zz62 s12 w1 u3 q9 r6 s1 r8 s8 r1 s2 r12 u1 r12 s1 t3 r15 s13 t5 u1 w1 t4 w2 x1 t1 u1 t4 q5 r13 s6 t11",
   "w2 u6 w3 u2 t10 u6 q1 t2 u8 w1 x1 u3 s23 t25 u84 zz12 t14 zz2 u4 w1 y3 u3 x2 zz3 u3 w4 y2 za1 zz5 za1 u6",
   "w19 x4 y3 w7 x4 y3 za1 y1 w3 x3 za1 zz7 y2 w7 x3 y2 za1 zz2 za1 x8 y1 za1 zz6 x7 y2 zz7 w147 zz1 w55 za37",
   "w10 zz1028 b2 e42711 w7 x2 zz32 k4149 x4 y1 zz6 l222 zz2 q5762 zz14 s7473 zz15 z622 zz2466 e542 zz1504 b2",
   "w4939 zz5 y4192 zz56398 b2 zz65534 b2 zz65534 b2 zz65534 b2 zz65534 b2 zz65534 b2 zz65534 b2 zz65534 b2",
   "zz65534 b2 zz65534 b2 zz65534 b2 zz1 e1 zz30 e96 zz128 g240 zz65038 b131074"]

/-- The versions with their letters. -/
def ageNames : List (String × String) :=
  [("a", "1.1"), ("b", "2.0"), ("c", "2.1"), ("d", "3.0"), ("e", "3.1"), ("f", "3.2"), ("g", "4.0"),
   ("h", "4.1"), ("i", "5.0"), ("j", "5.1"), ("k", "5.2"), ("l", "6.0"), ("m", "6.1"), ("n", "6.2"),
   ("o", "6.3"), ("p", "7.0"), ("q", "8.0"), ("r", "9.0"), ("s", "10.0"), ("t", "11.0"), ("u", "12.0"),
   ("v", "12.1"), ("w", "13.0"), ("x", "14.0"), ("y", "15.0"), ("z", "15.1"), ("za", "16.0")]

/-- The characters that a version has; the version is written with its point, or behind a `v` without it. -/
def ageSet? (version : String) : Option CharSet :=
  let dotless (name : String) : String := String.ofList ('v' :: name.toList.filter (· != '.'))
  (ageNames.find? fun (_, name) => name = version ∨ dotless name = version).map fun (letter, _) =>
    CharSet.ofLabels (· ≤ letter) ageRuns

end Attest
