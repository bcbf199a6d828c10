/-!
# Binary properties

The names of each binary property and the code points that have it, packed. The
properties that only contribute to others, such as `otheralphabetic`, have rows too.
-/

namespace HookGate.Text.Property

/-- Names in loose form, and packed code points. -/
def binaries : List (List String × String) :=
  [(["alphabetic", "alpha"],
    "X2P6Pl10A0405M1U1fE4BE47010s20TH1123106012101J1o21g48b51b1206e1d1D101111108Q43TA5t116Eb31747" ++
     "42A220Gl1Da3OW191405N2IJO7A5N15808f1AB366h21F124EDI17212L16103337212110804114C1A04215412L161" ++
     "11111444121407310H5B218121L16111438121130F3L34217212L161114372121914114D0G115321331101131323" ++
     "B4432123060e1C121M1F37121281122023S317121M1914371212816113D2CC121e1271212105374M5121H3N18102" ++
     "6851017I1Dv15660p1110141N101I12241060E3W10_171Z14I4F1Z1Z2s11024G_1A32b110502g11iA132610132e1" ++
     "132W1132610132E1u1132Y2b1FGr2253hJ2G1P5g23A7JBKCJCC1211Cp12IE040Z2u27g15b2AU1B48NT24Bh14Ps1R" ++
     "4-12Jo10N1B2n1p11E17p1f123Ah11AEs1M2AZ12A5g122f131511305_5JX1Br8252b125271010101U2q116103216" ++
     "33254C5216q30D0GCb3040291034601010131A235440He1jPp1su1a76331Cb110502t170GM96161616161616161V" ++
     "l10rE2P874244r2621v2135g11z2HVm1FWG_j6W2iqLZ2j12i83FA1Kk1573m3d182c32Y2211017LJ1W1Op1CZ210i1" ++
     "53012AW15Y1DS3o11BF0GFA41s19DIM3a21010O22F23B5252596161g11D6w3LZzACM4m1ae8jB2f3c16C45B1C1410" ++
     "11111h3X1gBI_12r1e1Bq341c4a1P6PBu235252522Z1B1P1I111E2DY1w3b2q1h8S3m1l1VDT5g15T2Z14714g1z4IZ" ++
     "14Z14d18p1CA1E16111A1E16113p1Cs99LA7O51f118b25201h111302MAM9UX2I11ALAPc2t161W231157121Sg1S3S" ++
     "Z171RRr1ALAIDHk3e2t1o1Do1Dd1Y1R305Mw7f11131G2t103SA08Lg1Hk1KRM9b2h14Au190DONo1H38Y1309_11391" ++
     "A010Z1H1X12063-1610131E197u1N317212L161114372121306056S910201b119102013113010i1X21213K2UX221" ++
     "10u5r126P5Y1-11030x1r120d2Q2DL6v5u1d3_1V72027111T112123z272j1251011Ro129Hd250Ie2d6W1V81i1161" ++
     "0n1T2L1Df26111h13011121021O5111a1111310dAM9G1e132l30l2vSc3k3HZ6io2W3FlX1H5Pwy35cIvr6k1ns1uH7" ++
     "UHk2HTIl1G3VK5ImDi1p6_1W4g24u17GW2110C1Et_58rc1f19dt8316111Y9F0T220E38hCae2g35C387940Xx5q21c" ++
     "2112021231B10161W21327161R131410361pA2O1O1U1O1U1O1U1O1U1O17qv1U65r661G2611145z1X10m3i1A6G0XA" ++
     "TIh1aFRa7T20lF613111E1a6x1Z23030qb131Q111020191310106040101012111020101010101110231613131019" ++
     "1G52141GqJP6P6Psp3_sf1W1vX46z62Xq5Emf7FjJYj2zGYl1gw45_Y4"),
   (["asciihexdigit", "ahex"], "m1975Q5"),
   (["bidicontrol", "bidic"], "ym10nl61Q4t13"),
   (["bidimirrored", "bidim"],
    "e11I010S010T010j10F0-p33zw11yi21A1s11E1n50W633530313313101048501H539110171V2350912I5194214N2" ++
     "F83K171zX1Dg2023111253523DpCL251D807530441124401221A521CI13201020135162O1B14311214g1271d1501" ++
     "03452403410W80ZG33111E129h17hD927znp1551Y51I010S010T0101111txr10v10v10v10v10"),
   (["cased"],
    "X2P6Pl10A0405M1U1Y6134l61Z171U4W30g132123106012101J1o21g48b51b19e1tu2b110502g113WLr225Ya2A5g" ++
     "122W2_5W2r8252b125271010101U2q11610321633254C5216q30D0GCb3040291034601010131540235440HV31nPp" ++
     "1su1a76331Cb11050oeUj1ITa4b3331z1211017L412rPg11D6l2WwJ6C4fW1P6Pbb1l2W3Z14Z1q3A1E16111A1E161" ++
     "1ZE0221f118bc1o1Do1z2LALwu2_1WhL_1WiPq21c2112021231B10161W21327161R131410361pA2O1O1U1O1U1O1U" ++
     "1O1U1O17qv191J65b8z1oa2Z2i_1P6P6P"),
   (["caseignorable", "ci"],
    "d1060B0Z1010d2040104021tF_541409110x76l6050n1i110111110i10B5AA10Z10AKG0b371913X1010UQx2Aw1A4" ++
     "020ONh12i107158f1v1t1010474036A1D0F0w104380K1Q021v1041412230U130B1v10441140K1M510w1020138071" ++
     "B1U0z10C0o1030t1012521371B1T0w10206051K1S1v114380K1T0e207210w2026B8Y30289016f21R01010t1D1411" ++
     "5A1Z190c33151121P142G3D02160F0-20WJ2oT2T1U1U1W2116802A3050j14p10X21Y10s32419062x6120w1016101" ++
     "0276920d108Un13m10141050e18C1W132112u10113012w1721W25o221C16406031o1-1D0Y1a3zD012B2D2D2D1C48" ++
     "1A02024n141910D0GCp1W1hy21n32z30F0W3Vl10rE0a133450z25z22suR0Yd15k80Y331910S3m21EX1k20N2d3231" ++
     "803040P150t41QHD0c17PAk12m102321H0L1Y252121C080Z10B0p1012215110R0E15110a3492v302040mvJ0p4GzH" ++
     "F30CFY1020f507060B0Z1010l10j11Z20L2XG0Y70r44bW151f118cI21153e1240b51zH3c10Q410x91l23c2An13x3" ++
     "0s1Ef1021A2n13212040A0o12a1417-10C1q18A320_2220116020z4037L1v1130b1634c25D01010E1r272210N0q2" ++
     "5104111k736111R1r272011g30102510b30102314Z8811W811040m432140W19e1523809522k1C11sC61510o2L261" ++
     "111w3530111610e213010xA1B1q145010N0rc5G6EecBB32Wk24x1693yF2e11YF0_1GW2111hWG31611-a3113yo4j1" ++
     "2MWH29F26U3q42xz1s14n180E0M41Emg161G2611145z1X10W5DmB0z13xF4-71WN6j37lr24XWZO0U_2W4l7"),
   (["changeswhencasefolded", "cwcf"],
    "X2Pw20AM17W101010101010101010101010101010101010101010101010101010102010101010101010111010101" ++
     "01010101010101010101010101010101010101110101011101112231112311110101110201112101130711111101" ++
     "01010101010102010101010101010102110121010101010101010101010101010101010101010101010101010101" ++
     "0107111201310101010s70g10103080601210111G18M0C231101010101010101010101010112110112o1m1010101" ++
     "01010101010101010101010101090101010101010101010101010101010101010101010101010101011101010101" ++
     "01020101010101010101010101010101010101010101010101010101010101010101010101010101010101010101" ++
     "01010102b1m10uu2b11050gP5Ya296g122WA01010101010101010101010101010101010101010101010101010101" ++
     "01010101010101010101010101010101010101010101010101010101010101010101010101010101010101010101" ++
     "05120101010101010101010101010101010101010101010101010101010101010101010101010101010101010101" ++
     "0101010109785A78785B010101087Gl122255225B3C45225f903160j1FJ0oPPmv1l1m10122010101310208210101" ++
     "01010101010101010101010101010101010101010101010101010101010101010101010101010101010101010101" ++
     "0801040jgU010101010101010101010101010101010101010101010J010101010101010101010101010d40101010" ++
     "10101030101010101010101010101010101010101010101010101010101010101010A01011101010104010201030" ++
     "1010101010101010101414101010101010101310113050101010O0wRl2WwJ6C4fW1Pbc1d1e4Z1y4A1E1611gt1o1z" ++
     "4Lwv2VWiLVWrUX1"),
   (["changeswhencasemapped", "cwcm"],
    "X2P6Pw10AM1U1_11p21R2D21104y21H6Q1110113113142011207020113550A1c50g132132106012101J1k13W1141" ++
     "a48b51b1Ac1uu2b110502g122WLr225Ya2A5g122v5030G0n3x4201r3252b125271010101U2q11610321633254C52" ++
     "16f903160R0HV31nPp1su1m311117b37331Cb11050oeUj1IRc4D2z19E32241O1T2146O1yQ0Sl2WwJ6C4fW1P6Pbb1" ++
     "l2W3Z14Z1q3A1E16111A1E1611Zs1o1Do1z2LALwu2_1WhL_1WqUZ2"),
   (["changeswhenlowercased", "cwl"],
    "X2Pb3M16X10101010101010101010101010101010101010101010101010101010201010101010101020101010101" ++
     "01010101010101010101010101010101010111010311011122311123111101011102011121011307111111010101" ++
     "01010101020101010101010101021101210101010101010101010101010101010101010101010101010101010107" ++
     "111201310101010X90103080601210111G18Z108010101010101010101010105020112o1m1010101010101010101" ++
     "01010101010101090101010101010101010101010101010101010101010101010101011101010101010201010101" ++
     "0101010101010101010101010101010101010101010101010101010101010101010101010101010101010102b1fw" ++
     "2b11050oMr2pa206g122WA0101010101010101010101010101010101010101010101010101010101010101010101" ++
     "01010101010101010101010101010101010101010101010101010101010101010101010101010109010101010101" ++
     "01010101010101010101010101010101010101010101010101010101010101010101010101010101010109785A78" ++
     "785B010101087O7878784B4B3C4B4f903160j1FJ0oPPmv1l1m101220101013102082101010101010101010101010" ++
     "10101010101010101010101010101010101010101010101010101010101010101010101010801040jgU010101010" ++
     "101010101010101010101010101010101010J010101010101010101010101010d401010101010103010101010101" ++
     "0101010101010101010101010101010101010101010101010A010111010101040102010301010101010101010101" ++
     "414101010101010101310113050101010O0hvLPbc1d1e4Z1y4A1E1611gt1o1z4Lwv2VWiLVWrUX1"),
   (["changeswhentitlecased", "cwt"],
    "X3Pw10f1N17101010101010101010101010101010101010101010101010101010102010101010101011101010101" ++
     "01010101010101010101010101010101010102010122010203050203220201010204020301020301040111110101" ++
     "01010101010111010101010101010121010301010101010101010101010101010101010101030101010101010101" ++
     "080211040101010151110113113142011207020113550A1c50h10103032I0RY11132101010101010101010101014" ++
     "102020q1l11010101010101010101010101010101010901010101010101010101010101010101010101010101010" ++
     "10101020101010101011101010101010101010101010101010101010101010101010101010101010101010101010" ++
     "101010101010101010101010n1c1mp35Ya2810k7030G0o3010101010101010101010101010101010101010101010" ++
     "10101010101010101010101010101010101010101010101010101010101010101010101010101010101010101010" ++
     "10101010101650101010101010101010101010101010101010101010101010101010101010101010101010101010" ++
     "101010101010101885A78785A7878D2787878411603211832187A211sA0X1F40hQPcw1l110311010106020A01010" ++
     "10101010101010101010101010101010101010101010101010101010101010101010101010101010101010101010" ++
     "10801040Cb11050peU010101010101010101010101010101010101010101010J010101010101010101010101010d" ++
     "4010101010101030101010101010101010101010101010101010101010101010101010101010A010201010101040" ++
     "401120101010101010101010B01010101010101040102030501010Q0yQ0Sl2WwJ6C4fX1Pjc1d1e4Z1x4A1E1611Zu" ++
     "1o1z3Lwv2VWiLVYrUX1"),
   (["changeswhenuppercased", "cwu"],
    "X3Pw10f1N17101010101010101010101010101010101010101010101010101010102010101010101011101010101" ++
     "01010101010101010101010101010101010102010122010203050203220201010204020301020301051111110101" ++
     "01010101011101010101010101011111030101010101010101010101010101010101010103010101010101010108" ++
     "0211040101010151110113113142011207020113550A1c50h10103032I0RY1113210101010101010101010101410" ++
     "2020q1l1101010101010101010101010101010101090101010101010101010101010101010101010101010101010" ++
     "10102010101010101110101010101010101010101010101010101010101010101010101010101010101010101010" ++
     "1010101010101010101010n1c1ew2g122uN5Ya2810k7030G0o301010101010101010101010101010101010101010" ++
     "10101010101010101010101010101010101010101010101010101010101010101010101010101010101010101010" ++
     "10101010101010165010101010101010101010101010101010101010101010101010101010101010101010101010" ++
     "1010101010101010101885A78785A7878D2q1114010321140332187A21140nA0X1F40hQPcw1l110311010106020A" ++
     "01010101010101010101010101010101010101010101010101010101010101010101010101010101010101010101" ++
     "0101010801040Cb11050peU010101010101010101010101010101010101010101010J01010101010101010101010" ++
     "1010d4010101010101030101010101010101010101010101010101010101010101010101010101010A0102010101" ++
     "01040401120101010101010101010B01010101010101040102030501010Q0yQ0Sl2WwJ6C4fX1Pjc1d1e4Z1x4A1E1" ++
     "611Zu1o1z3Lwv2VWiLVYrUX1"),
   (["dash"], "j10yg10p10Xo30bW10fW25z10d10F0cC0aW3020V140S0-D0J0l30mip11b10A0f50Wp30-90"),
   (["defaultignorablecodepoint", "di"],
    "j50XL0iM0Yw21po11r24x_14Q4n1Fqd40xap1Fl70W50l28dbl13lc57bqhO__3"),
   (["deprecated", "dep"], "fA0ff10Ze2010fX21bc25vL1sctR0"),
   (["diacritic", "dia"],
    "-2010d20604021tF-41755H14091z74n60t1G1Q101110c4741c414132Z2Qx2Aw1AY11-37f19GRz10G033S0g20G0k" ++
     "30G0k30G0l12y10G070t30k30G0k30G0j31G0y30l30C510h30D4h21R0101041Y2211-10m3011e1144P610A1XM2qT" ++
     "1U0q4A90xA2a90K720m1E2Ae30F0c18s11w10B1Y21W25o2O406022o1-1v2Bb1AzD012B2D2D2D1md32z90wF5f33_2" ++
     "0ohT0C110S1o21EX1c32j31C0b10t40RHv13a10_20C0a10r42X23p10a3492W41mvJ0XOFk8010l10j11Z20yN0_a15" ++
     "1f118zJ240b51xH5c10Q4lC2c2An13W60f10e21u31-10i2092e31o51m21G0O634v2211D1_2030x31x71-30s31p30" ++
     "j81Y8140y40p20I0n20bD0Y8011n20fD1N0id5EvcB0Wk24x16qH1YHGm21-_F31611Xu7j12MWH2358726U3Yq3z1Y6" ++
     "6tB0z13-N1WN6j3212"),
   (["emoji"],
    "Z106059l3040jy70C0u60M0w25F1lB1C0c50PA42d60d71A090w1314902021204020112030318250105BB1201110I" ++
     "021I5101131502141B15120511011K155132040202510201010603060A1F02040104210B1m1290E0E0qB1lE2J1p1" ++
     "040wc10C0vI010ghl30g60W51C1E029h2P11N0K028L1k5X12l321122o2221c81-1B51N7127C0232041D120819052" ++
     "C28220104060306r2m1b257224930113029Z7B40x8k1191u5m3C395t17E2A68"),
   (["emojicomponent", "ecomp"], "Z106059p-70r60hft10s-y1PxF4mj13ipXO_2"),
   (["emojimodifier", "emod"], "x_y34"),
   (["emojimodifierbase", "ebase"],
    "zm90x60G3tZp30y122022r312ALI3042127010O0f6140L041k5234p20G290B0_H02087609922u10z111110H21Cb7" ++
     "2g18"),
   (["emojipresentation", "epres"],
    "wu81j633020fG1L1o1Bh10J0D081H1518050L0711040207041S0Z10104210z12O0E0xQ1p1040kbn30g60-5029h2P" ++
     "10O0K02412L1k5W1C81b21LCg144CG303c2101w52-1D31NI0Q1D0s2q2m1b260322243B178Z7B40x8k1191u5m3C39" ++
     "5t17E2A68"),
   (["extendedpictographic", "extpict"],
    "f5040jy70C0u60M0w25F1lB1C0_20c20PA42d60d71A090w13151B1n3Ar32A1010603060A1F02040104210B4j1290" ++
     "E0E0qB1lE2J1p1040wc10C0vI010chl3_7D2V0y15C1E029Iu1REA0K028139nD5z98f8m1_3q3Br2g1C3u17A5e17Un" ++
     "2Ck1191uDW8zV"),
   (["extender", "ext"],
    "t50uG1kR0vD0sJ0f40v20mN0_30Zg20u10ZJ0kC0a20fy40h14d31z22suR0sl10YU0M0f40i30L1xZL0mW21hk10R04" ++
     "0dc10b90q31oF2lc10fbK1ya1110ugS1nb10qQ2"),
   (["graphemebase", "grbase"],
    "W1-2X1C1nIm372546101J1_67b51b12n122k101020209Q45H9B01j1LF1a38061204V201TTu2B0Eg1963N4090307E" ++
     "1O501A5UHf1v1s110138312792S1117212L1610333011612110D1124N5015412L1611111142O310792210C018121" ++
     "L16111433801130F14B708117212L16111430206121F1124HB015321331101131323B5011321230LK6217121M1F3" ++
     "033J2202149791A121M1914312011O1114912EA121e1201152121142194P211H3N18102691667922Cl111B78Cb11" ++
     "10141N1019119024109923W1N2Q10101D1Z1I05024n17151Cb1i14060212O233F4C11251E1d110502uB132610132" ++
     "e1132W1132610132E1u1132Y25S3P6r2252yK3u27HDI319HEC12Fp1207711B839696A596u2742X1105b2AU432241" ++
     "15703f124Bh14P6A3u1213t110901185D9696Ds2l1A3371S9B2V416t1102210Dl1815E3z15g12AB0D0731512205_" ++
     "5W2r8252b125271010101U2q11E1D251I22181A5N7m1G12Q1C3W1_1h44vKMALpu12V1tA315i110502t171FM96161" ++
     "61616161616X1z2Y1P1u2Cr6Qv16F1r24a35g11z21r29l11ipS3s19xAKk140AV2l2258j6211017LF12131O24496t" ++
     "18Z2ABOC1b18OB0CT6l11141211C1A461O1e16121B21710292V1o11031242010OG27B5252596161x14q31113396Z" ++
     "zACM4m1ae8jB2f3c16C4501N141011111y3GyD2r170W1FG9MY11I13441c44y42U352525223616D12B1P1I111E2DY" ++
     "1w3524i13t21C30l1i1Z4S3m1GQ4Z19T5b1AT1a14Dg1z4296Z14Z14d18p1BB1E16111A1E16113p1Cs99LA7O51f11" ++
     "8b25201h111302M1d288m1I115W13Q50W2t14J2k1F3121SA8787_1W1a16B9r13S2Q5P73C6m2e2t1o1Do17f1C96b1" ++
     "8N81m6U1f13021G2x1d18LB8MH43c1RKM901r1F64T1120Cm1412113EO799Z1509H8Y112Bp19017411F1JBH1R3145" ++
     "11_1610131E1A6k112D98117212L161114301013212130C6S910201b11011F011301211d1t181301K1012Ul11160" ++
     "1110202389c5k11163202Qa1o1811023B96CJg1101181696JSQ3011409Mv5k19020a3o2C72027111N1411631299c" ++
     "272f18313R0Ad1614790613j1D028De279s5X1E9681b1E015AS3VP07020h26111b1L09965111a141101079s9I239" ++
     "E1Z1813Ms20Fn1DwSc3k314BZ6io2Y3DlX1H5Pwy35cIvr6TC239cs1uH7U194m2196T70Al17EA9161K5ImDv1c6w2b" ++
     "3g25t1BCW23St_58rc1f19dt8316111Y9F0T220E38hCae2g35C38792020Wx3v76pDy4p3y1r7Ac12x152M17T4y1LX" ++
     "230w3JCJCs29Od4q21c2112021231B10161W21327161R131410361pA2Z92nHt13o171D16qZ1U65b8z1o4i1A62941" ++
     "WATIh14950mER49s6T2A40WF613111E1a628m1Z2704941nOZ2i2y1Y631Q111020191310106040101012111020101" ++
     "0101011102316131310191G52141Gq11k8h14Z3CE2E1E1a1Aj5u1SDh14871E5w4tU4G3C3s34-26B40FB4t1896d18" ++
     "T2B41-1pACD2C395t17E2A687o41b3cW1_sf1W1vX46z62Xq5Emf7FjJYj2zGYl1gw45_Y4"),
   (["graphemeextend", "grext"],
    "WOl3p86d8i110111110e2Am1KG0b36252113Z10UQx2Aw1890O3181214h12x18g1N1Vt1010474036A1T0w10102380" ++
     "90A1Q021v1041412230U130B1v10441140K1M510w1011138072A1U0x1010C090e1030t1012521371B1T0w1021103" ++
     "21371B1S1v1110238090A1T0e2040221080n2026C7Y3028B6f21R01010t1D14115A1Z190c33151121P142G3D0216" ++
     "0F0_L2oT3S2T1U1W2116802A90j1210r31Y10s32419062x6120w10161010276920m1Un13m1942c18C1W1325u1011" ++
     "3014u1721u421C16406031c6_1iG0Z6W1-_22j40W3VgH5f31qkT319W11m21m803040P150t41QHD0c17PA10i12m10" ++
     "232120a10Z252121C080l10p1012215110g1180k702040mvJ0XNFGFkB1zI0Y70r44cq121153e1240b51zH3X24z91" ++
     "l23c2An13x30s1Ef1021A2n132170z12a1417-10C1q18108320_22236020z4037L1v111010C090E634Z202510201" ++
     "24210E1r272210N0n202510201111h70236111R1r272011g301027b30102314Z8811r70A340m432140W19e152380" ++
     "9522k1C11sC61510o2L261111w3530111610e213010xA1B1q1452N0bd506EecBB32Wk24x16uW10_13n20B1hbJ1Xp" ++
     "4j12M-G4358726U3q42xz1s14n180E0M41Emg161G261114a30W56tB0z13yF3-71WN6j36rsbO_2W4l7"),
   (["graphemelink", "grlink"],
    "jg20_30_30_30_30_30_30_30j31G0y30l30_30f60q51vs11U0z40jK0Z70b31c21hi40cqU0b10t40k40i30r90s70" ++
     "noN0cm10f10E0v10v31h40q30q50Y30W42n30_30y70_30s30q30j80Z81X50p20I0n20bD0a81n20fD1ilG0"),
   (["hexdigit", "hex"], "m1975Q5fr_1975Q5"),
   (["hyphen"], "j10_30yc10xp40fW21bm30ZN0dhp10f50t20"),
   (["idcompatmathcontinue"], "o5150sz703A1EpB040M0Ybj30P0V0P0V0P0V0P0V0P0"),
   (["idcompatmathstart"], "Ym8040M0Ybj30P0V0P0V0P0V0P0V0P0"),
   (["idcontinue", "idc"],
    "m197P401Pl10A010205M1U1fE4BE47010Hq311231064101J1o21g4142b51b1206e18i1101111108Q43TA5f24b317" ++
     "291I20Gw12a3Er140202j1IR4A5N158g21W4291I17212L1610332821238041142BA0102215412L16111111201441" ++
     "223073107FB218121L16111429121220F329961217212L1611142821227241142910G115321331101131323B4432" ++
     "132060E9GC121M1F2812137112202329G317121M19142812137161132912CC121o11214537429A5121H3N1810263" ++
     "04510176921Dv15E19d1110141N101M2410161923W10N169B01010491Z14J1H1Z190v1f26j22b110502g11iA1326" ++
     "10132e1132W1132610132E1u1132Y22298EFGr2253hJ2G1P5g23A7L9LBJCC1211Cp2304129X121A6u27g15b2AU1B" ++
     "4BAd124Bh14P6Ab1R4-11S2A69D08D1Fn1i239H8Cp3Ct1893m12A5g122G21c15rG252b125271010101U2q1161032" ++
     "1633254C5216F1n11J0S0D0GCp1C403BH0402910256010101F235440He1tp2a768Cb110502t170FN961616161616" ++
     "16161VbG2PE14244r2261-25g11z2HVm1FWG_j6W2iqLZ2j12i83RKl1491o3b182c32Y2211017Lr140Jp1Cb2A96N3" ++
     "01m12Z1CS3W2EA6U1s19D296M3e2O22F24A5252596161g11D6w311296ZzACM4m1ae8jB2f3c16C45B1C141011111h" ++
     "3X1gBI_12r1e1B4FGF31O2W141c4J97P401PAv235252522Z1B1P1I111E2DY1w3b2q1e40Y4S3m1F0VVDT5g15T2Z14" ++
     "714g1z4296Z14Z14d18p1CA1E16111A1E16113p1Cs99LA7O51f118b25201h111302MAM9UX2I11ALAPc2t161W2311" ++
     "57121S2240W1S3SZ171TPr1ALAIDHk3e2t1o1Do1Dd1896b1341Mw7f11131G2t1W1A08W1VLg1KRM9c2VF9x170DO79" ++
     "6q119438Z1209a2431C10Z1H1a163-1610131E197w1596317212L1611141921222060562634B910201b119102013" ++
     "17D1Tg25943Ub21089c5r128N5Y1W230B9c1u1796JSQ2E4966v5w1b3f2L72027111T1128C9c272j12711R-1808f2" ++
     "30Ie2d6W1F9681i118F9OT2L1Df26111h13011188965111a1111579s9M9G1e134DAr20l2vSc3k3HZ6io2W3FlX1GL" ++
     "Awy35cIvr6v1cs1uH7U196k2196T24Bs193C99K5ImDi139c6_1W4g24u17GW2111B1Et_58rc1f19dt8316111Y9F0T" ++
     "220E38hCae2g35C387931nY49cGj12M-G4358726U3q42xDq21c2112021231B10161W21327161R131410361pA2O1O" ++
     "1U1O1U1O1U1O1U1O172n1WGs14n180E0M41EmY1U65r661G2611145z1X10m3i13D2940XAUHv1sEf1s6g1bF613111E" ++
     "1a6B6f1h249cb131Q1110201913101060401010121110201010101011102316131310191G52141Gqf39cW1_sf1W1" ++
     "vX46z62Xq5Emf7FjJYj2zGYl1gw45_Y4mgtLl7"),
   (["ideographic", "ideo"],
    "cWC1P8E2bU_j6W2_lKWeMjB2f3geT0Rt_58rc1f19dZ9hCaeJ_sf1W1vX46z62Xq5Emf7FjJYj2zGYl1gw45_Y4"),
   (["idsbinaryoperator", "idsb"], "m_B129nF0"),
   (["idstart", "ids"],
    "X2P6Pl10A0405M1U1fE4BE47010X441123106012101J1o21g48b51b1206e1d2Q43j1g1Z111Y310F171A220G01TTu" ++
     "2B0OW191405L409030NO7A5N15Hf1w1r130I079FF47212L16103330G0D112E1A085412L16111111V310J2G8121L1" ++
     "6111430I0F1N0B7212L16111430U112F0H015321331101131323BM0q17121M1F30Q22021U047121M191430V111F1" ++
     "H8121e120G05282O55H3N181026w1l111C6w1110141N101911902410L3W10_171Z1R4p3g1K0G5433031724CC0Hb1" ++
     "10502g11iA132610132e1132W1132610132E1u1132Y2b1FGr2253hJ2G1P5g23A7HDIEHEC12Fp1Z1040Z2u27e1105" ++
     "b2AUn1T24Bh14Ps1M9q1o20z2k1H7s1TD1Ah1QZ1f12AZ12A5g122f131511305_5W2r8252b125271010101U2q1161" ++
     "0321633254C5216q30D0GCb30402910256010101F235440He1tp2a76331Cb110502t170GM9616161616161616cH2" ++
     "P874244r2441v2135g11z2HVm1FWG_j6W2iqLZ2j12i83FA1Kk1GU2l2d182c32Y2211017LF12131MTp1En1-153011" ++
     "BRAMPS7k1S0G419A41e1N217KM303n11031242010O22A72C5252596161g11D6o3TZzACM4m1ae8jB2f3c16C450191" ++
     "C141011111h3X1gBI_12r1e1Bq341c4a1P6PBu235252522Z1B1P1I111E2DY1w3b2q1h8S3m1l1VDT5b1AT2Z14714g" ++
     "1z4IZ14Z14d18p1CA1E16111A1E16113p1Cs99LA7O51f118b25201h111302MAM9UX2I11ALAPc2t161W20F3121Sg1" ++
     "S3SZ171RRr1ALAIDHk3e2t1o1Do1DZ1c1R9Mw7f161G2x1SA08Lg1Hk1KRMCq1v1120Di1W1OQZ1T0208Y130Cl1E3L0" ++
     "10Z1H1OJ1_1610131E197k1c17212L16111430I0C4U910201b110P010i1q1I3K2Ul1K110u5k1f13a1l1K0x1g1D0d" ++
     "2Qb16v5h1q3_1V72027111NF010-272c1G010S0Ad170L0Bj1J0Ie2d6W1V81a1H0n1Tm36111b1L0P5111VE0dAIF01" ++
     "C1X1y30l2vSc3k3HZ6io2W3FlX1H5Pwy35cIvr6TYt1uH7UHk2HTIl1G3VK5ImDi1p6_1W4g250Y2CW2110St_58rc1f" ++
     "19dt8316111Y9F0T220E38hCae2g35C3879cx5q21c2112021231B10161W21327161R131410361pA2O1O1U1O1U1O1" ++
     "U1O1U1O17qv1U65b8z1o4i1A6G0XATIh1aFRa7T20lF613111E1a6x1Z270qb131Q111020191310106040101012111" ++
     "0201010101011102316131310191G52141Gag4_sf1W1vX46z62Xq5Emf7FjJYj2zGYl1gw45_Y4"),
   (["idstrinaryoperator", "idst"], "o_B1"),
   (["idsunaryoperator", "idsu"], "-_B1"),
   (["joincontrol", "joinc"], "iW81"),
   (["logicalorderexception", "loe"], "Wo34x34mt2220wda112011"),
   (["lowercase", "lower"],
    "X3Pl10A040a1N1710101010101010101010101010101010101010101010101010101011101010101010101110101" ++
     "01010101010101010101010101010101010101010201012201020314020322020101020111020301021226020201" ++
     "01010101010101110101010101010101120103010101010101010101010101010101010101010101010101010101" ++
     "01016202110401010101a21Z171U4W30h10103023I0RY11132101010101010101010101014102021p1l110101010" ++
     "10101010101010101010101010901010101010101010101010101010101010101010101010101010201010101010" ++
     "11101010101010101010101010101010101010101010101010101010101010101010101010101010101010101010" ++
     "101010m1e1dw2g113uN5Ya2810r3_5X2010101010101010101010101010101010101010101010101010101010101" ++
     "01010101010101010101010101010101010101010101010101010101010101010101010101010101010101018101" ++
     "01010101010101010101010101010101010101010101010101010101010101010101010101010101010101010101" ++
     "01885A78785A7878D2787878411603211832187A211v30D0GCj303130R04040218340X1F40hQPcw1l11031101010" ++
     "40111730101010101010101010101010101010101010101010101010101010101010101010101010101010101010" ++
     "10101010101011701040Cb11050peU010101010101010101010101010101010101010101010J0101010101010101" ++
     "01010101012b40101010101012101010101010101010101010101010101010101010101010101010101010191010" ++
     "20101010104010201210101010101010101010505010101010101010401020301010101010M21012rPg11D6l2WwJ" ++
     "6C4fX1Pjc1d1e4Z1x4A1E1611ZE0221f118be1o1z3Lwv2VWiLVwiPPQ61HQPQ310161AQPQPQPQPQPQPQPQPQRSO15Q" ++
     "O15QO15QO15QO1510qv191J65b8z1qb2X1"),
   (["math"],
    "h10G2V0T010j1040b10V0uM220Q122lG2jm60R2B030D0E3L4B4X2C403144I04029102560312112153D10a2N15114" ++
     "14V1061Eh883K1w20UQ10O0B6zD1C945412134E01025B751v1010T392mA_1W8_Fm1K25y-p10tP510Y50G2T010T01" ++
     "0Z4063Xj31mpn1q21c2112021231B10161W21327161R131410361pA2Z92n1Wm531Q1110201913101060401010121" ++
     "110201010101011102316131310191G52141Gq11"),
   (["modifiercombiningmark", "mcm"], "qo1120Z406031XF11230V0"),
   (["noncharactercodepoint", "nchar"],
    "mk_1VkG1-__11-__11-__11-__11-__11-__11-__11-__11-__11-__11-__11-__11-__11-__11-__11-__11"),
   (["otheralphabetic", "oalpha"],
    "bQ0TCWID10111110e2Am1C16G0b36432140Z10UFc3Ab31381213g30y1B366Js112E1152A1T2w162121A0A1T2w144" ++
     "12140U130B2w171211L1M242w16212191A1U0x143212A0e14v16121281B1T2w16121281B1F0C3w161212A0A1T2h2" ++
     "51017I1z1026I0Z302511G0Z5I9A1Z1k3B1023N342122633DB10A3qp11U1U1U1Y2Iy51Y10s3B48-64v192Jg21B2n" ++
     "14m1Ey12U821v1Ao1IyCX1Xs1p1sd2VqZU7Y11YB080N4u21o1F10v10c14SBj13m1Bb10Z2DC081j12o10122150i14" ++
     "50j77pvJ0tY24cq121153qO3X20XA1l20Z82r1Dj11B2j1890z12a1BI1v12m1CE1y28206020z49N3w162121A0A1q2" ++
     "810201311d3C12g3Hj7626T1o2E10g3Ad3DX8Ct7511213010k462540S9g1413IAk1DtC716p2L1Dw353011121030Y" ++
     "241113yA39110m1632zkGGWn301s173z21ibJ0Xx861G261114a30tb20e_1P6P6P"),
   (["otherdefaultignorablecodepoint", "odi"], "lQ0lm31po11lb20-d40xnp10l28dWWQ01TW3_3m7lm3"),
   (["othergraphemeextend", "ogrext"],
    "-j20O0cB0O0c30O0e7010411191d30O0t30F0rf20U0WW10501051b30d21uW10XX41ZfU0i30zkL1Wn40q30e80E090" ++
     "W3090201250W70C0n70c80vJ0C0Zm10kbK1phO165jrhO_2"),
   (["otheridcontinue", "oidc"], "t50lM0X_38ep10nn11jd40fpp10"),
   (["otheridstart", "oids"], "ba61na20L0ix31"),
   (["otherlowercase", "olower"],
    "g50F0rF871U4W30q10Xi30lX3-1D0Y1a1nL0D0GCp6FmQPoy11-mU1o60X4231YR390sWN0221f118rZs1z1"),
   (["othermath", "omath"],
    "-20nR220Q121WX70R2B0W13O1E1X2C403144I04029103460312112153354h24231111101421414H2110161061Y93" ++
     "e5110O0H0zD1C854512134E01025O1v1010T391sA1V9pCL_13W11ZZr101040p6010Xcr1q21c2112021231B10161W" ++
     "21327161R131410361pA2O1O1U1O1U1O1U1O1U1O172n1Wm531Q11102019131010604010101211102010101010111" ++
     "02316131310191G52141G"),
   (["otheruppercase", "oupper"], "Wh8FcQPWZp3P6P6P"),
   (["patternsyntax", "patsyn"],
    "X1EA6Q310Q3Y1610111011404030N0V0uu7N8E2I19n9lMW5rJUXW11e3WG_3XC24OF0jep11b81"),
   (["patternwhitespace", "patws"], "94I0a30ey71O1"),
   (["prependedconcatenationmark", "pcm"], "Wm15t60n10WC1m20w-X20F0"),
   (["quotationmark", "qmark"], "Y1040Z40F0yw77P1dm30fE3D2Xnp13z5040w21"),
   (["radical"], "WqBP1u2Cr6"),
   (["regionalindicator", "ri"], "cly3P"),
   (["sentenceterminal", "sterm"],
    "X10C0G0fg10p42q50h12s70z101031b91at11sO041bO0c61z41j1050w91YB3Y51A121T2x51X21aT0N192lb32o90D" ++
     "0M1jD0ydT0k81Z7030-B1s21_20u41p42m41v70cnK021x1031f50C0G0X20qt21zd14i13z51r33_32X4160G1u2111" ++
     "i30g91r31rB15Ef31v72bG010x71t21aD1qL1g21fvI1b40X21B0fH1e90cmJ0el70"),
   (["softdotted", "sd"],
    "f31a60v80U0q10K0WA0Y3010fe60p10D030a40z40bD0s61ov20bzf31o11o11o11o11o11o11o11o11o11o11o11o11" ++
     "ca20n91Q0"),
   (["terminalpunctuation", "term"],
    "X10A010B130-P080XG0v10e20E012q50h1A10h71s1517V0b81qd11i5045t91rO7bO0y32d21z4230d1321w91YB3Y5" ++
     "1A112T2x54-11aT0N192lb32o90D040A01131iD1xdT1j82Z74-B1s21_20t42p42_30G1v70cnK021v1213f50A010B" ++
     "130X2020wX10m10ca10d60s91u45a25v23uT4i13z56m33_32X4160G1u24i30g91r32C1cB33Ef31v72bG010x71t21" ++
     "41-C2j10bK1g21hf14vlH1b40X22A0fH1d91cmJ0dl73"),
   (["unifiedideograph", "uideo"],
    "WWD_j6W2_lKkmM11011A0101122skX2_sf1W1vX46z62Xq5Emf7FjJYj4gw45_Y4"),
   (["uppercase", "upper"],
    "X2Pb3M16X10101010101010101010101010101010101010101010101010101010201010101010101020101010101" ++
     "01010101010101010101010101010101010111010311011122311123111101011102011121011307020202010101" ++
     "01010101020101010101010101020201210101010101010101010101010101010101010101010101010101010107" ++
     "111201310101010X90103080601210111G18Z10223010101010101010101010105020112o1m10101010101010101" ++
     "01010101010101010901010101010101010101010101010101010101010101010101010111010101010102010101" ++
     "010101010101010101010101010101010101010101010101010101010101010101010101010101010101010102b1" ++
     "fw2b11050oMr2pa206g122WA01010101010101010101010101010101010101010101010101010101010101010101" ++
     "01010101010101010101010101010101010101010101010101010101010101010101010101010101090101010101" ++
     "0101010101010101010101010101010101010101010101010101010101010101010101010101010101010109785A" ++
     "78785B010101087e23C3C3C4B3c8040322220346010101323A150QFJ0oPPmv1l1m10122010101310208210101010" ++
     "10101010101010101010101010101010101010101010101010101010101010101010101010101010101010101080" ++
     "1040jgU010101010101010101010101010101010101010101010J010101010101010101010101010d40101010101" ++
     "01030101010101010101010101010101010101010101010101010101010101010A01011101010104010201030101" ++
     "0101010101010101414101010101010101310113050101010O0hvLPbc1d1e4Z1y4A1E1611gt1o1z4Lwv2VWiLVWjP" ++
     "PQPQPQ01120212317QPQ1132716R113141036RPQPQPQPQPQPUOX1OX1OX1OX1OX10rf4X1kW2P6P6P"),
   (["variationselector", "vs"], "hW6210mlv1FmtWQl7"),
   (["whitespace", "wspace", "space"], "94I0a30Q0_k50_h2AT150l10Wz30"),
   (["xidcontinue", "xidc"],
    "m197P401Pl10A010205M1U1fE4BE47010Hq311321064101J1o21g4142b51b1206e18i1101111108Q43TA5f24b317" ++
     "291I20Gw12a3Er140202j1IR4A5N158g21W4291I17212L1610332821238041142BA0102215412L16111111201441" ++
     "223073107FB218121L16111429121220F329961217212L1611142821227241142910G115321331101131323B4432" ++
     "132060E9GC121M1F2812137112202329G317121M19142812137161132912CC121o11214537429A5121H3N1810263" ++
     "04510176921Dv15E19d1110141N101M2410161923W10N169B01010491Z14J1H1Z190v1f26j22b110502g11iA1326" ++
     "10132e1132W1132610132E1u1132Y22298EFGr2253hJ2G1P5g23A7L9LBJCC1211Cp2304129X121A6u27g15b2AU1B" ++
     "4BAd124Bh14P6Ab1R4-11S2A69D08D1Fn1i239H8Cp3Ct1893m12A5g122G21c15rG252b125271010101U2q1161032" ++
     "1633254C5216F1n11J0S0D0GCp1C403BH0402910256010101F235440He1tp2a768Cb110502t170FN961616161616" ++
     "16161VbG2PE14244r221221-25g11z2HVm1FWG_j6W2iqLZ2j12i83RKl1491o3b182c32Y2211017Lr140Jp1Cb2A96" ++
     "N301m12Z1CS3W2EA6U1s19D296M3e2O22F24A5252596161g11D6w311296ZzACM4m1ae8jB2f3c16C45B1C14101111" ++
     "1h3X1g46v6I_12r1e196FGF31O2X1010301010101z3J97P401PAv235252522Z1B1P1I111E2DY1w3b2q1e40Y4S3m1" ++
     "F0VVDT5g15T2Z14714g1z4296Z14Z14d18p1CA1E16111A1E16113p1Cs99LA7O51f118b25201h111302MAM9UX2I11" ++
     "ALAPc2t161W231157121S2240W1S3SZ171TPr1ALAIDHk3e2t1o1Do1Dd1896b1341Mw7f11131G2t1W1A08W1VLg1KR" ++
     "M9c2VF9x170DO796q119438Z1209a2431C10Z1H1a163-1610131E197w1596317212L1611141921222060562634B9" ++
     "10201b11910201317D1Tg25943Ub21089c5r128N5Y1W230B9c1u1796JSQ2E4966v5w1b3f2L72027111T1128C9c27" ++
     "2j12711R-1808f230Ie2d6W1F9681i118F9OT2L1Df26111h13011188965111a1111579s9M9G1e134DAr20l2vSc3k" ++
     "3HZ6io2W3FlX1GLAwy35cIvr6v1cs1uH7U196k2196T24Bs193C99K5ImDi139c6_1W4g24u17GW2111B1Et_58rc1f1" ++
     "9dt8316111Y9F0T220E38hCae2g35C387931nY49cGj12M-G4358726U3q42xDq21c2112021231B10161W21327161R" ++
     "131410361pA2O1O1U1O1U1O1U1O1U1O172n1WGs14n180E0M41EmY1U65r661G2611145z1X10m3i13D2940XAUHv1sE" ++
     "f1s6g1bF613111E1a6B6f1h249cb131Q1110201913101060401010121110201010101011102316131310191G5214" ++
     "1Gqf39cW1_sf1W1vX46z62Xq5Emf7FjJYj2zGYl1gw45_Y4mgtLl7"),
   (["xidstart", "xids"],
    "X2P6Pl10A0405M1U1fE4BE47010X441132106012101J1o21g48b51b1206e1d2Q43j1g1Z111Y310F171A220G01TTu" ++
     "2B0OW191405L409030NO7A5N15Hf1w1r130I079FF47212L16103330G0D112E1A085412L16111111V310J2G8121L1" ++
     "6111430I0F1N0B7212L16111430U112F0H015321331101131323BM0q17121M1F30Q22021U047121M191430V111F1" ++
     "H8121e120G05282O55H3N181026w1l110D6w1110141N101910A02410L3W10_171Z1R4p3g1K0G5433031724CC0Hb1" ++
     "10502g11iA132610132e1132W1132610132E1u1132Y2b1FGr2253hJ2G1P5g23A7HDIEHEC12Fp1Z1040Z2u27e1105" ++
     "b2AUn1T24Bh14Ps1M9q1o20z2k1H7s1TD1Ah1QZ1f12AZ12A5g122f131511305_5W2r8252b125271010101U2q1161" ++
     "0321633254C5216q30D0GCb30402910256010101F235440He1tp2a76331Cb110502t170GM9616161616161616cH2" ++
     "P874244r2621v2135g11z2HVm1FWG_j6W2iqLZ2j12i83FA1Kk1GU2l2d182c32Y2211017LF12131MTp1En1-153011" ++
     "BRAMPS7k1S0G419A41e1N217KM303n11031242010O22A72C5252596161g11D6o3TZzACM4m1ae8jB2f3c16C450191" ++
     "C141011111h3X1g46v6I_12r1e19t3010301010101z3a1P6PBt12U35252522Z1B1P1I111E2DY1w3b2q1h8S3m1l1V" ++
     "DT5b1AT2Z14714g1z4IZ14Z14d18p1CA1E16111A1E16113p1Cs99LA7O51f118b25201h111302MAM9UX2I11ALAPc2" ++
     "t161W20F3121Sg1S3SZ171RRr1ALAIDHk3e2t1o1Do1DZ1c1R9Mw7f161G2x1SA08Lg1Hk1KRMCq1v1120Di1W1OQZ1T" ++
     "0208Y130Cl1E3L010Z1H1OJ1_1610131E197k1c17212L16111430I0C4U910201b110P010i1q1I3K2Ul1K110u5k1f" ++
     "13a1l1K0x1g1D0d2Qb16v5h1q3_1V72027111NF010-272c1G010S0Ad170L0Bj1J0Ie2d6W1V81a1H0n1Tm36111b1L" ++
     "0P5111VE0dAIF01C1X1y30l2vSc3k3HZ6io2W3FlX1H5Pwy35cIvr6TYt1uH7UHk2HTIl1G3VK5ImDi1p6_1W4g250Y2" ++
     "CW2110St_58rc1f19dt8316111Y9F0T220E38hCae2g35C3879cx5q21c2112021231B10161W21327161R131410361" ++
     "pA2O1O1U1O1U1O1U1O1U1O17qv1U65b8z1o4i1A6G0XATIh1aFRa7T20lF613111E1a6x1Z270qb131Q111020191310" ++
     "1060401010121110201010101011102316131310191G52141Gag4_sf1W1vX46z62Xq5Emf7FjJYj2zGYl1gw45_Y4")]

end HookGate.Text.Property
