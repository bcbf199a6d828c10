/-!
# Properties with several values

The tables of the age of a character, of its break properties and of its general category.
-/

namespace HookGate.Text.Property

/-!
## Ages

The versions of the character database in order, each with the code points that
it assigned first. A character has an age once its version is reached, so a
query takes the union of all rows up to the one it names.
-/

/-- Versions in order. -/
def ages : List (List String × String) :=
  [(["1.1", "v11"],
    "0rF4Tu1u27k119Mb2Q1I1403056101J1h116301010101HDB1X21B1e19q121213R2721t1b1261c110c1918CQ54N0E" ++
     "0301P5IDD2d2241E1T29dG21q12H243OG217212L161033201621229041142K7025412L1611111120144122B3107E" ++
     "C21610121L16111429121220F059H217212L1611232731228141124AH11532133110113132371244321390FBE217" ++
     "121M1914461213719149I117121M191446121371701149I117121M1F452213908149n4v14Sb11102110206316121" ++
     "010211C122410152921YEb1Ac1404v25Z25n2cW3w45v26L252b125271010101U2q11E1D251I22181k11MZ163QHAb" ++
     "1HUu1Ql1Dw2Ln7E01u3b4a1RALg4Lr4Al2GJ6r2n43132R1Y11013301626EU3N1DXY2t1701p2452z26d14z21FW3S3" ++
     "Z1SR3n1FB4k11s34Y32UXm6bjKwYGjn6o66C46O141011111h3X1iBG_12r1e1Ba13CK491I1342101c4201z22z2352" ++
     "525223616E2"),
   (["2.0", "v20"],
    "ni1G1CK0xf2d21W17Q45101K3610Xt30lG0qwY1ZzAwYg21-__11-__11-__11-__11-__11-__11-__11-__11-__11" ++
     "-__11-__11-__11-__1XWW4"),
   (["2.1", "v21"], "ib80lwt10"),
   (["3.0", "v30"],
    "sF3U72Hr34n10A4t28J0q3030101010U0C0Y20C0g1123y21y40e62Y3150F0g141D1T3Qr1m1nk111H3N1810263045" ++
     "1017I2rB0h10N270121E20m1X1141116336PcD61-110132610132c110132U101326101326161M1U1013261c11I6R" ++
     "Z1q2CrJ9S3m2l4y239ME196t28f1by10O5_22o11r21e20d38j80v301Tg41fE7X10s21kC_7Wi1P1u2Cr6QBy1230XB" ++
     "NeIrj6goKia13H2F1B1210soL0xc12"),
   (["3.1", "v31"],
    "qV1wk-1Vme1U13CQr5b12b1ozo1r7Ac13p5YHq21c2112021231B1013111W21327161R131410361nA4X94n1WWAssf" ++
     "1ffKzGZlXM0U_2"),
   (["3.2", "v32"],
    "WH0k90JCe31S0p41v112121n1F-A1XA0bg21dm1C16BM9JCC1211pc20644074D0-11o16o2Ee5Bo7Dy30Up1y8Jt49u" ++
     "27M1w2B29-6Dw2R4FW8_Fxf12t2181-20m7Fn2En2EYlS1G0C030ghLw1nS03Fr11i10h71"),
   (["4.0", "v40"],
    "XH0I2t31_1Gm2752t44aG398W22r41F0j12T2qD0u50Z2010e40q22D0Z20x10X47X61_u20I9c8S3B4B403f124h3VW" ++
     "Oh3dN1c70pK1k90q81q37E1-Y1Dlu11n10h11k23d53Z31V0Wk6_1z_h10f21tDB1P1I111E2DY1w3524i138WIT10c4" ++
     "1c1l229sQ5201h1113020Wso1s2gB0-XhOl7"),
   (["4.1", "v41"],
    "tHAs84_43s71g50Y12Z20I0w15n7TlG0m20dF0l10fV1d9110g80_10_10d10V0V0V0F0d10N1VPcl1f16P6941W1R21" ++
     "iQt2nK116n14T3r10m20F0aKAyH0b31IA5Fk86dQ5i7k11k1X1g3Ei1Ar190GM9616161616161616X1N41YTFk50dfR" ++
     "Law1Mf7h1aoKf3sP9cPg2rGZ14Dgn131157121Q424888dzn1b2-Y11"),
   (["5.0", "v50"],
    "YIDh92nA0g15G3c50bGw1WC111YR1D1jm3h24i1dI6p11iN3z21r10tIBgM0q83fQ653y9C73_qU351-8t1eaOP50Wt5" ++
     "kRn4Y3D3ith1HuY11"),
   (["5.1", "v51"],
    "mR321t20t50i4FY74B4W14k9HnF1-60Z10k60T1i30i30Q181K7z5060T1C536hF1X3032j2050207245Q_141gW20rM" ++
     "g13Bc2t13E3o1hARr53w25aB0h40-20r13qe10L933e80V3hP44e134u821245YBVO32IyN0Y5JukR7yf1h9KV2H8RZ4" ++
     "42g3k34W4a29Bc1p2B0W5s19D2923a-K2fRBq1j1Y4S3m1lo1P50f_n10ss7h14Z3"),
   (["5.2", "v52"],
    "af11wMj12EX60j2060Z11W40vk13X63y54a24o25WG0sJ8mHb2q51k10b2-11S2A696DYHY1g80uL2t42s10-I0rL1T2" ++
     "491I104Nt20zV4s80D1h36_90oW1BqhR7ae1l1WDt2u99c5Ra3S3j21A41W4R4Y2O4W7j129szAM4m1lp82ok3L18w51" ++
     "aAVW4r13S2Q57W4e2tGUXGX2-v7kX1ncl1A5U20B0102030348070P01120A320l30FX1E8tbj1qX4"),
   (["6.0", "v60"],
    "cf11u70-10WFR20x61J061R4wF5nD0G0J0zH3f21YS1XZ2p183yF0uK7S0lPAwM0J013T041S0Z10104291q12O0E0E1" ++
     "Wj10E0uX12bbT1h9111E9m20cO525259616ZaKF-X5j24TmyLuHdkH1-aGE2D2E1Em201A1011121257161968102119" ++
     "4119h2P11l18L1k5W1F51b23JCa114LGF-1101r5133z1INp441F1210101012152310231B4Am1b2w1p3i-l1z6"),
   (["6.1", "v61"],
    "li10q30xK01At1QnF0jV1dF050l12hr22C5W87h13qs2010af11p1050u11g69miS0dr17Z10o71M0j21cNMtvJ1mw3t" ++
     "161mu1O796q11Dy1e279cb1t189sXMa2Bk1GGWpV31Q1110201913101060401010121110201010101011102316131" ++
     "310191G52141Gq11uJ1qU3y50G0301010103061401140"),
   (["6.2", "v62"], "wb80"),
   (["6.3", "v63"], "ym10fo63"),
   (["7.0", "v70"],
    "_R0eD7z21s30xK0B5i20u3070_J0p10i20_30a79Xe27aH1nCEvH1j7EbM2sP6bO0iY12AP2V2X13B17gJ6rYU5s7BB2" ++
     "21b20eFUz33m5l141XsK6zQ1J0_9RZ10m1g1bCd18p1B0m4s99LA7u7-188mEVW1c14Bf4H73C6lc10m6c1s20C06JBH" ++
     "1g1o3w1597217212L16111428212290562634h8d289c5r12Hs1a2B9cIo2C0WEu1sZ2f1g6B50hkHU1941W3T25Ab2A" ++
     "9161K5ImZKg35C387927ywAa62Fe_10W1LL1qGB90c20MBb10535BH6d2010s5041_1146TH1e11r2c21Dl1c29GC33i" ++
     "4q2h1B4t1896d18T"),
   (["8.0", "v80"],
    "pb21k10rG0WB0a80rq1025Wc30h61Wp23z-S8es10m70Y15aA1YJ3Cl2kpK1mr2I1154y512F2j1WKo1Do175fc13E4W" ++
     "5610131E1As20l20vJJY9P3E4FvY30c7Z6yr7cItyY1Atm1hKF41EzZ62k21l24a17_70h24p71h40_H8d34x10_ol1X" ++
     "q5"),
   (["9.0", "v90"],
    "sb27MEzS0k604216N2du38oB0_l13ao21fhU0s80dcM1XPZ14Z1Yg30XEv21010YGCpi181i11DAS3V2L1DfvK0Vi_5J" ++
     "oNjeL61G261114rc2g25941xX2Hk40-P0f10i91X12YH517802B1B4Ec1C"),
   (["10.0", "v100"],
    "WZ2AnC1y75WG0w11wz30-73bM0_P0o-10oJ4aN0drRKYwO2ms5d28p12M14zI6111h130111889dqK0WXGy8n2hCaxF5" ++
     "jZ11Y11dGBJ08711P0ICc15u1Mfcr1mf7"),
   (["11.0", "v110"],
    "Wh10d10c30jG2p60g90t30jC0_30p_20tW1g122wt32MO4EhI4WN0xrR4_z1081aA1qfO1I0tLd189cEd18f1pB0s32q" ++
     "F0Y90xL0b7x1XJ0YM5111a1111579s9OdwJw2og64ktIJ-36ud6Z2wZ10fk10x63qB2S4233013OAD971a1OW3D"),
   (["12.0", "v120"],
    "tZ30kG020201540707120D0_n30ks30r10lI0ghU524_S1uZPMeZ10uI0dN72j12A_41wf1n1D0mX58iuE540l18w21k" ++
     "W65ugA2H3uyBi13D2941mBv150ho10rTy1kX10eh10a10b7BX92l10n1090f1531A53722m1p2S34252D5"),
   (["12.1", "v121"], "_tC0"),
   (["13.0", "v130"],
    "-b29jK0kD0y30zf31sc40uL2eR4s_69mnKCg-13g11r10xP3mnL0Zd3f11221-7RxB0c41gK051-a162027111T112B9" ++
     "9so10pXK0B1Xu6YFg18aWP2z22z10ef11Z11pD1w20b3041g1162T0e50E3FI7692D6f1o41s1b19zsg16YfMgw4"),
   (["14.0", "v140"],
    "zm10oIU1167L0IAfR0W10_30ln207090l70nLDz30m11xJ0bM0kx20l10pFA_iS2W-11E11014O2j-K0zBF_30k11mx1" ++
     "A1E16111A1E1611ZE51f118rz1Pc75i20sl10c46fRFmc5Y3zpEk219cfH31611W93zk7j12M9p3bH1re3UnRUnf1613" ++
     "111E-s32m80eC0o20k51i13A382H26786d_g11rY43"),
   (["15.0", "v150"],
    "pd30wE0kXW22_P2-b29sVG1e13Rrc509SycV0Y10gh8JnY35b8z1X10WY1f1Yl40t4244v20xK2F1a12B210E1A1C0E1" ++
     "WYl10sWN_Y4"),
   (["15.1", "v151"], "y_B3lF0Wmk5jJ"),
   (["16.0", "v160"],
    "ta20sr41l10f81yy12wj31blT2C2ZlNp1iw1b13S81o92t10Za1910201b119102013191181jNJyc1X1E9WR0be5wy3" ++
     "be7v1cW3v1by70WuFv76pDyu5g140or4941dE050k1070L02090X7a1")]

/-!
## Text segmentation

The values of the three break properties. A code point with no row has the value
`Other`, which cannot be asked for.
-/

def graphemeBreaks : List (List String × String) :=
  [(["cn", "control"], "09111H_2W1D0kh10nl40y_1021O6n1Flqt10m7BqXDFWZY13lc57bqhOVW3_3m7lm3"),
   (["cr"], "D0"),
   (["ex", "extend"],
    "WOl3p86d8i110111110e2Am1KG0b36252113Z10UQx2Aw1890O3181214h12x18g1N1Vt1010474036A1T0w10102380" ++
     "90A1Q021v1041412230U130B1v10441140K1M510w1011138072A1U0x1010C090e1030t1012521371B1T0w1021103" ++
     "21371B1S1v1110238090A1T0e2040221080n2026C7Y3028B6f21R01010t1D14115A1Z190c33151121P142G3D0216" ++
     "0F0_L2oT3S2T1U1W2116802A90j1210r31Y10s32419062x6120w10161010276920m1Un13m1942c18C1W1325u1011" ++
     "3014u1721u421C16406031c6_1iG0Z6W1-_22j40W3VgH5f31qkT319W11m21m803040P150t41QHD0c17PA10i12m10" ++
     "232120a10Z252121C080l10p1012215110g1180k702040mvJ0XNFGFkB1zI0Y70r44cq121153e1240b51zH3X24z91" ++
     "l23c2An13x30s1Ef1021A2n132170z12a1417-10C1q18108320_22236020z4037L1v111010C090E634Z202510201" ++
     "24210E1r272210N0n202510201111h70236111R1r272011g301027b30102314Z8811r70A340m432140W19e152380" ++
     "9522k1C11sC61510o2L261111w3530111610e213010xA1B1q1452N0bd506EecBB32Wk24x16uW10_13n20B1hbJ1Xp" ++
     "4j12M-G4358726U3q42xz1s14n180E0M41Emg161G261114a30W56tB0z13yF3-71WN6j36mr24WXZO_2W4l7"),
   (["l"], "We4_2WWc1S"),
   (["lf"], "A0"),
   (["lv"],
    "WWh10R0R0R0R0R0R0R0R0R0R0R0R0R0R0R0R0R0R0R0R0R0R0R0R0R0R0R0R0R0R0R0R0R0R0R0R0R0R0R0R0R0R0R0R" ++
     "0R0R0R0R0R0R0R0R0R0R0R0R0R0R0R0R0R0R0R0R0R0R0R0R0R0R0R0R0R0R0R0R0R0R0R0R0R0R0R0R0R0R0R0R0R0R" ++
     "0R0R0R0R0R0R0R0R0R0R0R0R0R0R0R0R0R0R0R0R0R0R0R0R0R0R0R0R0R0R0R0R0R0R0R0R0R0R0R0R0R0R0R0R0R0R" ++
     "0R0R0R0R0R0R0R0R0R0R0R0R0R0R0R0R0R0R0R0R0R0R0R0R0R0R0R0R0R0R0R0R0R0R0R0R0R0R0R0R0R0R0R0R0R0R" ++
     "0R0R0R0R0R0R0R0R0R0R0R0R0R0R0R0R0R0R0R0R0R0R0R0R0R0R0R0R0R0R0R0R0R0R0R0R0R0R0R0R0R0R0R0R0R0R" ++
     "0R0R0R0R0R0R0R0R0R0R0R0R0R0R0R0R0R0R0R0R0R0R0R0R0R0R0R0R0R0R0R0R0R0R0R0R0R0R0R0R0R0R0R0R0R0R" ++
     "0R0R0R0R0R0R0R0R0R0R0R0R0R0R0R0R0R0R0R0R0R0R0R0R0R0R0R0R0R0R0R0R0R0R0R0R0R0R0R0R0R0R0R0R0R0R" ++
     "0R0R0R0R0R0R0R0R0R0R0R0R0R0R0R0R0R0R0R0R0R0R0R0R0R0R0R0R0R0R0R0R0R0R0R0R0R0R0R0R0R0R0R0R0R0R" ++
     "0R0R0R0R0R0R0R0R0R0R0R0R0R0R0R0R0R0R0R0R0R0R0R0R0R0R0R0R0R0R0R0R0"),
   (["lvt"],
    "XWh1Q1Q1Q1Q1Q1Q1Q1Q1Q1Q1Q1Q1Q1Q1Q1Q1Q1Q1Q1Q1Q1Q1Q1Q1Q1Q1Q1Q1Q1Q1Q1Q1Q1Q1Q1Q1Q1Q1Q1Q1Q1Q1Q1Q1" ++
     "Q1Q1Q1Q1Q1Q1Q1Q1Q1Q1Q1Q1Q1Q1Q1Q1Q1Q1Q1Q1Q1Q1Q1Q1Q1Q1Q1Q1Q1Q1Q1Q1Q1Q1Q1Q1Q1Q1Q1Q1Q1Q1Q1Q1Q1Q1" ++
     "Q1Q1Q1Q1Q1Q1Q1Q1Q1Q1Q1Q1Q1Q1Q1Q1Q1Q1Q1Q1Q1Q1Q1Q1Q1Q1Q1Q1Q1Q1Q1Q1Q1Q1Q1Q1Q1Q1Q1Q1Q1Q1Q1Q1Q1Q1" ++
     "Q1Q1Q1Q1Q1Q1Q1Q1Q1Q1Q1Q1Q1Q1Q1Q1Q1Q1Q1Q1Q1Q1Q1Q1Q1Q1Q1Q1Q1Q1Q1Q1Q1Q1Q1Q1Q1Q1Q1Q1Q1Q1Q1Q1Q1Q1" ++
     "Q1Q1Q1Q1Q1Q1Q1Q1Q1Q1Q1Q1Q1Q1Q1Q1Q1Q1Q1Q1Q1Q1Q1Q1Q1Q1Q1Q1Q1Q1Q1Q1Q1Q1Q1Q1Q1Q1Q1Q1Q1Q1Q1Q1Q1Q1" ++
     "Q1Q1Q1Q1Q1Q1Q1Q1Q1Q1Q1Q1Q1Q1Q1Q1Q1Q1Q1Q1Q1Q1Q1Q1Q1Q1Q1Q1Q1Q1Q1Q1Q1Q1Q1Q1Q1Q1Q1Q1Q1Q1Q1Q1Q1Q1" ++
     "Q1Q1Q1Q1Q1Q1Q1Q1Q1Q1Q1Q1Q1Q1Q1Q1Q1Q1Q1Q1Q1Q1Q1Q1Q1Q1Q1Q1Q1Q1Q1Q1Q1Q1Q1Q1Q1Q1Q1Q1Q1Q1Q1Q1Q1Q1" ++
     "Q1Q1Q1Q1Q1Q1Q1Q1Q1Q1Q1Q1Q1Q1Q1Q1Q1Q1Q1Q1Q1Q1Q1Q1Q1Q1Q1Q1Q1Q1Q1Q1Q1Q1Q1Q1Q1Q1Q1Q1Q1Q1Q1Q1Q1Q1" ++
     "Q1Q1Q1Q1Q1Q1Q1Q1Q1Q1Q1Q1Q1Q1Q1Q1Q1Q1Q1Q1Q1Q1Q1Q1Q1Q1Q1Q1Q1Q1Q1Q1Q"),
   (["pp", "prepend"], "Wm15t60n10WC1m20hZ10kxW20F0q71jG0jh1010YA5yL0xD0"),
   (["ri", "regionalindicator"], "cly3P"),
   (["sm", "spacingmark"],
    "Ze20t10228311o11x116121s10w12Y20w128011r11y106121o30113212q12z13z11w102011k10E1x115212r11i21" ++
     "66J1_10_30g41_10n5091P1i10nv107711wA3224115W71w1010L5n40v13W20U041_102210r1781h50L0hvY1120u2" ++
     "1o1Fk40m10m114121l3121O0z402150j71111110pWP010_30j1241p30O1x10m1290E0z2231i52V1x10132121L1r2" ++
     "1F011d328130h3160111020k716320n328110j3011k3070b8290u74117010k428340q20T1-10tC0E0g307020r644" ++
     "110-A1C0m1181glG2an3s1"),
   (["t"], "ej4t2hkn1m1"),
   (["v"], "Wh4d2emn1Myib1033"),
   (["zwj"], "jW80")]

def wordBreaks : List (List String × String) :=
  [(["cr"], "D0"),
   (["dq", "doublequote"], "Y10"),
   (["ex", "extendnumlet"], "_20l-70F1J0-kt11O2l70"),
   (["extend"],
    "WOl3p86d8i110111110e2Am1KG0b36252113Z10UQx2Aw1890O3181214h12x18g1N1W1s121H16A1T2u1016212290A" ++
     "1Q022u1014412230U130B2u10171212K1M512u1016212272A1U0x14321390e14t1016121371B1T2u1016121371B1" ++
     "F0C3t1116121390A1T2c20451017I1z1026C7Y3028B6f21R0101041n1J115A1Z190a3JN342122633DB10A3_L2oT3" ++
     "S2T1U1W2V90j1210r31Y10s3B4Bx64v191S20m1Un14l1Gc18C2UCu1Dm1Ju421K406022c6_1iG0Z6W1-_22j40W3Vg" ++
     "H5f31qkT319W11m21m803040N440p21o1HQHD0c17PCi13l1Da10Z2DC081j12o1012215110f1451i7711mvJ0XNFGF" ++
     "kB1zI0Y70r44cq121153e1240b51zH3X24z91l23c2An13w32r1Ef1021A3j1A70z12a1DG1i10C2m1D8311y2B6020z" ++
     "4BL3t1116212290A12634Z281020131410E1o2HN0n2Jh7628R1o2Gg3Cb3EW8Er7511231011j462630S9e1613809A" ++
     "k1FrC717o2L1Dw3530111610Y241114xA39110m1634N0bd506EecBHWk24x16uW101s173n20B1hbJ1Xp4j12M-G435" ++
     "8726U3q42xz1s14n180E0M41Emg161G261114a30W56tB0z13yF3-71WN6j36mr24WXZO_2W4l7"),
   (["fo", "format"], "j50kh10nl40__11Q4n1419lqt10v72qXDFWZY13lc57cqhO0"),
   (["hl", "hebrewletter"], "mk1Q43gfz10191C1410111119"),
   (["ka", "katakana"], "nXC4b313w213m7Fm6k11t2kWp1t1oYi13161110_82o10E3"),
   (["le", "aletter"],
    "X2P6Pl10A020105M1U1_E6X1m341123106012101J1o21g48b51b123101e110e30i1g1Z111Y310F171A220F11TTu2" ++
     "B0OW191405L409030NO7A5N15Hf1w1r130I079FF47212L16103330G0D112E1A085412L16111111V310J2G8121L16" ++
     "111430I0F1N0B7212L16111430U112F0H015321331101131323BM0q17121M1F30Q22021U047121M191430V111F1H" ++
     "8121e120G05282O55H3N181026v90_171Z1R4p8b110502g11iA132610132e1132W1132610132E1u1132Y2b1FGr22" ++
     "53hJ2G1P5g23A7HDIEHEC12l5u2742X1105b2AUX7Mk7k1H7s1TD1Ah1QZ1f12AZ12A5g122f131511305_5W2r8252b" ++
     "125271010101U2q11610321633254C5216q30D0GCb3040291034601010131A235440He1jPp1su1a76331Cb110502" ++
     "t170GM9616161616161616m20rE0r11e6g11z2HVWoRia1Z2j12i83FA1Kk1GU2l2Ob6211017LF12131MTp1En1-153" ++
     "011BRAMPS7k1S0m1e1N217q4A72C5252596161v16o3TZzACM4m1au86C4u1X3X1gBI_12r1e1Bq341c4a1P6Pb2U352" ++
     "52522Z1B1P1I111E2DY1w3b2q1h8S3m1l1VDT5b1AT2Z14714g1z4IZ14Z14d18p1CA1E16111A1E16113p1Cs99LA7O" ++
     "51f118b25201h111302MAM9UX2I11ALAPc2t161W20F3121Sg1S3SZ171RRr1ALAIDHk3e2t1o1Do1DZ1c1R9Mw7f161" ++
     "G2x1SA08Lg1Hk1KRMCq1v1120Di1W1OQZ1T0208Y130Cl1E3L010Z1H1OJ1_1610131E197k1c17212L16111430I0C4" ++
     "U910201b110P010i1q1I3K2Ul1K110u5k1f13a1l1K0x1g1D0dAh1q3_1V72027111NF010-272c1G010S0Ad170L0Bj" ++
     "1J0Ie2d6W1V81a1H0n1Tm36111b1L0P5111VE0dAIF01C1X1y30l2vSc3k3HZ6io2W3FlX1H5Pwy35cIvr6TYt1uH7UH" ++
     "k2HTIl1G3VK5ImDi1p6_1W4g250Y2CW2110yWJg35C3879cx5q21c2112021231B10161W21327161R131410361pA2O" ++
     "1O1U1O1U1O1U1O1U1O17qv1U65b8z1o4i1A6G0XATIh1aFRa7T20lF613111E1a6x1Z270qb131Q1110201913101060" ++
     "401010121110201010101011102316131310191G52141GqJP6P6P"),
   (["lf"], "A0"),
   (["mb", "midnumlet"], "k10f_71A0jnt10q5060"),
   (["ml", "midletter"], "w10y30lM0tE0q40on60hlt10X20a60"),
   (["mn", "midnum"], "i10E0YQ0gG0Y41-20hC0hY60hkt1030x1030t50E0"),
   (["nl", "newline"], "B1u30Yz71"),
   (["nu", "numeric"],
    "m19ck15w2910n30I9c69c61m20Z49s39s39s39s39s39s39s39s39s39W39s39c29s89c29cw19c19i99W49c5969s59" ++
     "s29c4969ckY19cL9c19c69M9s29sC9suK9ci19ca2969yO9j20F0Y19y19m49s89sA9s39sB9c396Ji29cD9c39sK9s2" ++
     "9s79c29cD9skG9cf29s29c49sG9sxN9qs2n1Wg29cD9sF9t79rQ9sq49"),
   (["ri", "regionalindicator"], "cly3P"),
   (["sq", "singlequote"], "d10"),
   (["wsegspace"], "W10_o50_h2612q20Wz30"),
   (["zwj"], "jW80")]

def sentenceBreaks : List (List String × String) :=
  [(["at", "aterm"], "k10r_70jnt10x50"),
   (["cl", "close"],
    "Y1042n1010T010j10F0-p33zw11xh27P1A1s11E1vJ3T1mX157Dl21V9pCL_13W11YW1DE129O0I7hD92712-ep11t61" ++
     "SF21G5f51n1010T0101111ouz12"),
   (["cr"], "D0"),
   (["ex", "extend"],
    "WOl3p86d8i110111110e2Am1KG0b36252113Z10UQx2Aw1890O3181214h12x18g1N1W1s121H16A1T2u1016212290A" ++
     "1Q022u1014412230U130B2u10171212K1M512u1016212272A1U0x14321390e14t1016121371B1T2u1016121371B1" ++
     "F0C3t1116121390A1T2c20451017I1z1026C7Y3028B6f21R0101041n1J115A1Z190a3JN342122633DB10A3_L2oT3" ++
     "S2T1U1W2V90j1210r31Y10s3B4Bx64v191S20m1Un14l1Gc18C2UCu1Dm1Ju421K406022c6_1iG1Y6W1-_22j40W3Vg" ++
     "H5f31qkT319W11m21m803040N440p21o1HQHD0c17PCi13l1Da10Z2DC081j12o1012215110f1451i7711mvJ0XNFGF" ++
     "kB1zI0Y70r44cq121153e1240b51zH3X24z91l23c2An13w32r1Ef1021A3j1A70z12a1DG1i10C2m1D8311y2B6020z" ++
     "4BL3t1116212290A12634Z281020131410E1o2HN0n2Jh7628R1o2Gg3Cb3EW8Er7511231011j462630S9e1613809A" ++
     "k1FrC717o2L1Dw3530111610Y241114xA39110m1634N0bd506EecBHWk24x16uW101s173n20B1hbJ1Xp4j12M-G435" ++
     "8726U3q42xz1s14n180E0M41Emg161G261114a30W56tB0z13yF3-71WN6j36rsbO_2W4l7"),
   (["fo", "format"], "j50kh10o70-d40y_1021Q4n1419lqt10v72qXDFWZY13lc57cqhO0"),
   (["le", "oletter"],
    "xD043m60a166BQ010b40aF0s3Q44i1g1Z111Y310F171A220G01TTu2B0OW191405L409030NO7A5N15Hf1w1r130I07" ++
     "9FF47212L16103330G0D112E1A085412L16111111V310J2G8121L16111430I0F1N0B7212L16111430U112F0H0153" ++
     "21331101131323BM0q17121M1F30Q22021U047121M191430V111F1H8121e120G05282O55H3N181026w1l111C6w11" ++
     "10141N101911902410L3W10_171Z1R4p3g1K0G5433031724CC0X2g12hA132610132e1132W1132610132E1u1132Y2" ++
     "b1Fn3hJ2G1P5g23A7HDIEHEC12Fp1Z1040Z2u2742X1105b2AUn1T24Bh14Ps1M9q1o20z2k1H7s1TD1Ah1QZ1f12AZ1" ++
     "Ig122f13151130wX13d2223dz2t170GM9616161616161616m20rE2P874244r2621v2135g11z2HVm1FWG_j6W2iqLZ" ++
     "2j12i83FA1Y20G0W1l2d18e3060d303612131MTp1En1-153011BRAMPS7k1S0G419A41e1N217KM303n11031242010" ++
     "O22A72C525259616n4Y1TZzACM4m1ae8jB2f3Z20191C141011111h3X1gBI_12r1e1Bq341c4f3t12U35252522Z1B1" ++
     "P1I111E2DY1w3b2q1h8S3m1l1VDT5b1AT2Z14714w3j2Y3d18p1y2p1Cs99LA7P1z35201h111302MAM9UX2I11ALAPc" ++
     "2t161W20F3121Sg1S3SZ171RRr1ALAIDHk3e2t5Z1c15V0m8f161G2x1SA08Lg1Hk1KRMCq1v1120Di1W1OQZ1T0208Y" ++
     "130Cl1E3L010Z1H1OJ1_1610131E197k1c17212L16111430I0C4U910201b110P010i1q1I3K2Ul1K110u5k1f13a1l" ++
     "1K0x1g1D0d2Qb16v5h1p672027111NF010-272c1G010S0Ad170L0Bj1J0Ie2d6W1V81a1H0n1Tm36111b1L0P5111VE" ++
     "0dAIF01C1X1y30l2vSc3k3HZ6io2W3FlX1H5Pwy35cIvr6TYt1uH7UHk2HTIl1G3VK5ImDi1pCg250Y2CW2110St_58r" ++
     "c1f19dt8316111Y9F0T220E38hCae2g35C3879mp80rFi1A6G0XATIh1aFRa7T20lF613111E1a6c40qb131Q1110201" ++
     "913101060401010121110201010101011102316131310191G52141Gag4_sf1W1vX46z62Xq5Emf7FjJYj2zGYl1gw4" ++
     "5_Y4"),
   (["lf"], "A0"),
   (["lo", "lower"],
    "X3Pl10A040a1N1710101010101010101010101010101010101010101010101010101011101010101010101110101" ++
     "01010101010101010101010101010101010101010201012201020314020322020101020111020301021226020201" ++
     "01010101010101110101010101010101120103010101010101010101010101010101010101010101010101010101" ++
     "01016202110401010101a21Z171U4i40103023I0RY11132101010101010101010101014102021p1l110101010101" ++
     "01010101010101010101010901010101010101010101010101010101010101010101010101010201010101010111" ++
     "01010101010101010101010101010101010101010101010101010101010101010101010101010101010101010101" ++
     "010m1e1px20xN5Ya2810r3_5X2010101010101010101010101010101010101010101010101010101010101010101" ++
     "01010101010101010101010101010101010101010101010101010101010101010101010101010101018101010101" ++
     "0101010101010101010101010101010101010101010101010101010101010101010101010101010101010101885A" ++
     "78785A7878D2787878411603211832187A211v30D0GCj303130R04040218340X1F40hQPcw1l11031101010401117" ++
     "30101010101010101010101010101010101010101010101010101010101010101010101010101010101010101010" ++
     "10101011701040Cb11050peU010101010101010101010101010101010101010101010J0101010101010101010101" ++
     "01012b40101010101012101010101010101010101010101010101010101010101010101010101010191010201010" ++
     "10104010201210101010101010101010505010101010101010401020301010101010M21012rPg11D6l2WwJ6C4fX1" ++
     "Pjc1d1e4Z1x4A1E1611ZE0221f118be1o1z3Lwv2VWiLVwiPPQ61HQPQ310161AQPQPQPQPQPQPQPQPQRSO15QO15QO1" ++
     "5QO15QO1510qv191J65b8z1qb2X1"),
   (["nu", "numeric"],
    "m19ck15w2911m30I9c69c61m20Z49s39s39s39s39s39s39s39s39s39W39s39c29s89c29cw19c19i99W49c5969s59" ++
     "s29c4969ckY19cL9c19c69M9s29sC9suK9ci19ca2969yO9j20F0Y19y19m49s89sA9s39sB9c396Ji29cD9c39sK9s2" ++
     "9s79c29cD9skG9cf29s29c49sG9sxN9qs2n1Wg29cD9sF9t79rQ9sq49"),
   (["sc", "scontinue"], "i11C1YQ0-E0k51gF0fW4050gW21i_30kmp1111S1T12120A0e51C1e20"),
   (["se", "sep"], "b40Yz71"),
   (["sp"], "9011J0_30_k50_h2Aa10l10Wz30"),
   (["st", "sterm"],
    "X10T0fg10p42q50h12s70z101031b91at11sO041bO0c61z41j1050w91YB3Y51A121T2x51X21yT192lb32o90D0M1j" ++
     "D0ydT0k81Z7030-B1s21_20u41p42m41v70cnK021_11f50T0X20qt21zd14i13z51r33_32X4160G1u2111i30g91r3" ++
     "1rB15Ef31v72bG010x71t21aD1qL1g21fvI1b40X21B0fH1e90cmJ0el70"),
   (["up", "upper"],
    "X2Pb3M16X10101010101010101010101010101010101010101010101010101010201010101010101020101010101" ++
     "01010101010101010101010101010101010111010311011122311123111101011102011121011307111111010101" ++
     "01010101020101010101010101021101210101010101010101010101010101010101010101010101010101010107" ++
     "111201310101010X90103080601210111G18Z10223010101010101010101010105020112o1m10101010101010101" ++
     "01010101010101010901010101010101010101010101010101010101010101010101010111010101010102010101" ++
     "010101010101010101010101010101010101010101010101010101010101010101010101010101010101010102b1" ++
     "fw2b11050oMr2pa20sB0101010101010101010101010101010101010101010101010101010101010101010101010" ++
     "10101010101010101010101010101010101010101010101010101010101010101010101010109010101010101010" ++
     "10101010101010101010101010101010101010101010101010101010101010101010101010101010109785A78785" ++
     "B010101087O7878784B4B3C4B4b8040322220346010101323A150QFJ0oPPmv1l1m10122010101310208210101010" ++
     "10101010101010101010101010101010101010101010101010101010101010101010101010101010101010101080" ++
     "1040jgU010101010101010101010101010101010101010101010J010101010101010101010101010d40101010101" ++
     "01030101010101010101010101010101010101010101010101010101010101010A01011101010104010201030101" ++
     "0101010101010101414101010101010101310113050101010O0hvLPbc1d1e4Z1y4A1E1611gt1o1z4Lwv2VWiLVWjP" ++
     "PQPQPQ01120212317QPQ1132716R113141036RPQPQPQPQPQPUOX1OX1OX1OX1OX10rf4X1kW2P6P6P")]

/-!
## General categories

The names of each general category and its code points, packed. A category that
groups others (such as `l` or `lc`) has a row of its own; surrogates have none.
-/

/-- Names in loose form, and packed code points. -/
def categories : List (List String × String) :=
  [(["c", "other"],
    "0V_2W1D0gM1637010K0jC0c11o1130t17R36GM0W60m11x11b3Dx11n11F0S110B4V7h20X508121M07012419121471" ++
     "32051P1306321M07020202110532132164016H9309030M0702051A030311E41C670308121M070205191213633205" ++
     "1I9206230422010222232C3523041151DL4D030N0G190304620311141A6M030N0A051903046252041A03BD030p10" ++
     "3063G1Q030I2O090117213601085A13Bw13Ta1201050O010N1501070A14Ve20a13d10a10F0Da1c601411vB041701" ++
     "041f1041X1041701041F0v1041Z21W12Q5s2161zK2v26M8O8KBD0302B-21A5A5E0B5v26h14c29V0C3C312g115Ai1" ++
     "3Q5B2-11X20T1B5A5E1Vm1j20c57y12F2-14h11B7h14sG161c116180101010V1r10F0E160J13090B4Q4n1F21R0D2" ++
     "X1EX1Ei43wKLBKqu11W10zA4j101411u162DO87070707070707070-3X1Q0v2Bs6Pm20s21d34h10-20s28m10jpS2t" ++
     "18yAJu57k6120108Kx12A5u17c27C5q3AU2k20B3X10t18E1A1d3NS96161687070y13-31A5azABN3n13WW2_d6kB1g" ++
     "3b17B54Q050102020z3FzD1s161Vg15p10J04350d43-5261616132707C21C0Q0J020F1EX1x3433j12u20D21k1k1X" ++
     "4T2n1ES3a18U4h14U0b13Ef1-41A5a13a13e17q1AC0F07020B0F07022q1Bt98M98N60g109a26110i102211N0e279" ++
     "l1J024X12R41_1u13K1o10248030T133A696W2Vd13C8s12T1R4Q64B7l2f2s1p1Cp16k17A5c12T72l6V0g10312F3s" ++
     "1i17g1LQb1SJN8k23a18-105CP6A5r10I7d18W30KAI0l1z1701040F0B5x14A5408121M0702050A12131151471725" ++
     "AA01110c10A0111040A0272Sy205Te27Ab5s11c1X1b2AA5DIw15A5KRR1F3Nu5y1Z3p2B81118020U021C8Ab281k11" ++
     "BQe27p2Cf26Ar5Y1DA590j10E9T2W11M0Ee27020i12102097A56020b102066Ar9P6H0f12Tq21Eo1CxSb3l305Aa6h" ++
     "o2Z3CmX1FM9xy34dIur6w1bs1vH6V0A3n20A5U169c29A070L4JlDw1b6x2a3h23v16H_15A2Du_57sc1e1Act840702" ++
     "0Z9E1S311D47iCZe2h34D296A14_w3w75qDh2k11N8q3x1s79d11g27m3Kc2v3KBKBt28Pc4r20d2021112140C01070" ++
     "X20418070S040501270qA1a91-LE50FlY1V56q670H1702054-1W11l3j12E1A32_9VGw141lEg1r6h131_E704020F0" ++
     "b61Ge1i23A32mOa2h2z1X640R0201110A040101513101010302011101010101020114070404010A0H43050Hp12j8" ++
     "i13a3BF1F0F0b19k5t1TCi13962D6v4uU3H2D2t33_25C31EC3u17A5e17U1C32z1qABE1D2A4u16F1B596p40c3bW1W" ++
     "tf1VwX45-61Yq5Dnf7EkJXj2-GXl1hw44WZ4lgtLm7lm_5"),
   (["cc", "control", "cntrl"], "0V_2W1"),
   (["cf", "format"], "j50og15M0W60n10WC1m20hv30y_14Q4n1419lqt10v72Xc40F0Yx8FWZY13lc57cqhO0U_2"),
   (["cn", "unassigned"],
    "uR1637010K0jC0c11o1130t17R36Ak80y11b3Dx11n11F0S110B4V024j708121M0701241912147132051P1306321M" ++
     "07020202110532132164016H9309030M0702051A030311E41C670308121M0702051912136332051I920623042201" ++
     "0222232C3523041151DL4D030N0G190304620311141A6M030N0A051903046252041A03BD030p103063G1Q030I2O0" ++
     "90117213601085A13Bw13Ta1201050O010N1501070A14Ve20a13d10a10F0Da1c601411vB041701041f1041X10417" ++
     "01041F0v1041Z21W12Q5s2161zK2v26M8O8KBD0302B-21A5A5Q5v26h14c29V0C3C312g115Ai13Q5B2-11X20T1B5A" ++
     "5E1Vm1j20c57y12F2-14h11B7h14sG161c116180101010V1r10F0E160J13090b30C1R0D2X1EX1Ei43wKLBKqu11W1" ++
     "0zA4j101411u162DO87070707070707070-3X1Q0v2Bs6Pm20s21d34h10-20s28m10jpS2t18yAJu57k6120108Kx12" ++
     "A5u17c27C5q3AU2k20B3X10t18E1A1d3NS96161687070y13-31A5azABN3n13kp81g3b17B54Q050102020z3FzD1s1" ++
     "61Vg15p10J04350d4110-5261616132707951C0Q0J020F1EX1x3433j12u20D21k1k1X4T2n1ES3a18U4h14U0b13Ef" ++
     "1-41A5a13a13e17q1AC0F07020B0F07022q1Bt98M98N60g109a26110i102211N0e279l1J024X12R41_1u13K1o102" ++
     "48030T133A696W2Vd13C8s12T1R4Q64B7l2f2s1p1Cp16k17A5c12T72l6V0g10312F3s1i17g1LQb1SJN8k23a18a29" ++
     "11P6A5r10I7d18W30KAI0l1z1701040F0B5x14A5408121M0702050A12131151471725AA01110c10A0111040A0272" ++
     "Sy205Te27Ab5s11c1X1b2AA5DIw15A5KRR1F3Nu5y1Z3p2B81118020U021C8Ab281k11BQe27p2Cf26Ar5Y1DA590j1" ++
     "0E9T2W11M0Ee27020i12102097A56020b102066Ar9P6H0f12Tq21Eo1CxSb3l305Aa6ho2Z3CsY19xy34dIur6w1bs1" ++
     "vH6V0A3n20A5U169c29A070L4JlDw1b6x2a3h23v16H_15A2Du_57sc1e1Act8407020Z9E1S311D47iCZe2h34D296A" ++
     "18xw3w75qDh2k11N8q3x1s79d11Y6Kc2v3KBKBt28Pc4r20d2021112140C01070X20418070S040501270qA1a91-LE" ++
     "50FlY1V56q670H1702054-1W11l3j12E1A32_9VGw141lEg1r6h131_E704020F0b61Ge1i23A32mOa2h2z1X640R020" ++
     "1110A040101513101010302011101010101020114070404010A0H43050Hp12j8i13a3BF1F0F0b19k5t1TCi13962D" ++
     "6v4uU3H2D2t33_25C31EC3u17A5e17U1C32z1qABE1D2A4u16F1B596p40c3bW1Wtf1VwX45-61Yq5Dnf7EkJXj2-GXl" ++
     "1hw44WZ4mYtL1TW3_3m7lm_1-__11-__11"),
   (["co", "privateuse"], "WWu1_d6WuXSz__12z__1"),
   (["l", "letter"],
    "X2P6Pl10A0405M1U1fE4BE47010X441123106012101J1o21g48b51b1206e1d2Q43j1g1Z111Y310F171A220G01TTu" ++
     "2B0OW191405L409030NO7A5N15Hf1w1r130I079FF47212L16103330G0D112E1A085412L16111111V310J2G8121L1" ++
     "6111430I0F1N0B7212L16111430U112F0H015321331101131323BM0q17121M1F30Q22021U047121M191430V111F1" ++
     "H8121e120G05282O55H3N181026w1l111C6w1110141N101911902410L3W10_171Z1R4p3g1K0G5433031724CC0Hb1" ++
     "10502g11iA132610132e1132W1132610132E1u1132Y2b1FGr2253hJ2G1P5g2677HDIEHEC12Fp1Z1040Z2u2742X11" ++
     "05b2AUn1T24Bh14Ps1M9q1o20z2k1H7s1TD1Ah1QZ1f12AZ12A5g122f131511305_5W2r8252b125271010101U2q11" ++
     "610321633254C5216q30D0GCb3040291034601010131A235440q11xp2a76331Cb110502t170GM961616161616161" ++
     "6m20rE1g14514r2621v2135g11z2HVm1FWG_j6W2iqLZ2j12i83FA1Kk1GU2b2n182c32Y2211017LF12131MTp1En1-" ++
     "153011BRAMPS7k1S0G419A41e1N217KM303n11031242010O22A72C5252596161g11D6o3TZzACM4m1ae8jB2f3c16C" ++
     "450191C141011111h3X1gBI_12r1e1Bq341c4a1P6PBu235252522Z1B1P1I111E2DY1w3bCS3m1l1VDJ176b1AT2Z14" ++
     "7m1z4IZ14Z14d18p1CA1E16111A1E16113p1Cs99LA7O51f118b25201h111302MAM9UX2I11ALAPc2t161W20F3121S" ++
     "g1S3SZ171RRr1ALAIDHk3e2t1o1Do1DZ1c1R9Mw7f161G2x1SA08Lg1Hk1KRMCq1v1120Di1W1OQZ1T0208Y130Cl1E3" ++
     "L010Z1H1OJ1_1610131E197k1c17212L16111430I0C4U910201b110P010i1q1I3K2Ul1K110u5k1f13a1l1K0x1g1D" ++
     "0d2Qb16v5h1q3_1V72027111NF010-272c1G010S0Ad170L0Bj1J0Ie2d6W1V81a1H0n1Tm36111b1L0P5111VE0dAIF" ++
     "01C1X1y30l2vSc7Z6io2W3FlX1H5Pwy35cIvr6TYt1uH7UHk2HTIl1G3VK5ImDi1p6_1W4g250Y2CW2110St_58rc1f1" ++
     "9dt8316111Y9F0T220E38hCae2g35C3879cx5q21c2112021231B10161W21327161R131410361pA2O1O1U1O1U1O1U" ++
     "1O1U1O17qv1U65b8z1o4i1A6G0XATIh1aFRa7T20lF613111E1a6x1Z270qb131Q1110201913101060401010121110" ++
     "201010101011102316131310191G52141Gag4_sf1W1vX46z62Xq5Emf7FjJYj2zGYl1gw45_Y4"),
   (["lc", "casedletter"],
    "X2P6Pw10AM1U1Y6134l61QW632132106012101J1o21g48b51b19e1tu2b110502g122WLr225Ya2A5g122W2h1_1C1X" ++
     "1b3r8252b125271010101U2q11610321633254C5216b8040291034601010131540235440q11xp2x32c36331Cb110" ++
     "50oeUj1IRc4j21M331z1211017O130rPg1587l2WwJ6C4fW1P6Pbb1l2W3Z14Z1q3A1E16111A1E1611Zs1o1Do1z2LA" ++
     "Lwu2_1WhL_1WiPq21c2112021231B10161W21327161R131410361pA2O1O1U1O1U1O1U1O1U1O17qv191J65rk2Z2"),
   (["ll", "lowercaseletter"],
    "X3Pw10f1N17101010101010101010101010101010101010101010101010101010111010101010101011101010101" ++
     "01010101010101010101010101010101010102010122010203140203220201010201110203010212260202010101" ++
     "01010101011101010101010101011201030101010101010101010101010101010101010101010101010101010101" ++
     "6202110401010101a21QX60103032I0RY11132101010101010101010101014102021p1l110101010101010101010" ++
     "10101010101010901010101010101010101010101010101010101010101010101010201010101010111010101010" ++
     "10101010101010101010101010101010101010101010101010101010101010101010101010101010101010m1e1dw" ++
     "2g122uN5Ya2810r3h1_1C1X1c3010101010101010101010101010101010101010101010101010101010101010101" ++
     "01010101010101010101010101010101010101010101010101010101010101010101010101010101018101010101" ++
     "0101010101010101010101010101010101010101010101010101010101010101010101010101010101010101885A" ++
     "78785A7878D2787878411603211832187A211o803130R04040218340r10hr2l11031101010401115501010101010" ++
     "10101010101010101010101010101010101010101010101010101010101010101010101010101010101010117010" ++
     "40Cb11050peU010101010101010101010101010101010101010101010J010101010101010101010101010d401010" ++
     "10101012101010101010101010101010101010101010101010101010101010101010101710102010101010401020" ++
     "1210101010101010101010505010101010101010401020301010101010Q030rPg1587l2WwJ6C4fX1Pjc1d1e4Z1x4" ++
     "A1E1611Zu1o1z3Lwv2VWiLVwiPPQ61HQPQ310161AQPQPQPQPQPQPQPQPQRSO15QO15QO15QO15QO1510qv191J65tl2" ++
     "X1"),
   (["lm", "modifierletter"],
    "mLH4BE47010b4050-E0c70a51j8140V09030W50d50qc10_30rH0ws10h30ZJ0mE5k5-1D0Y1a1nL0D0GC_-21n70_50" ++
     "rE0h1450X31z22suR0Yd15k80o30S1v38m20N0f3231rE0M0f40i30L1d3390cWL0j11W_151f118pi10W10mkN3yF2e" ++
     "11cHCW2110iWG31611nXCz1f66jT0_Y10"),
   (["lo", "otherletter"],
    "g50F0W8043m60xPQ43j1V19Z111Y310O1A220G01TTu2B0OW1LLg1O7A5N15He1x1r130I079GE47212L16103330G0D" ++
     "112E1A085412L16111111V310J2G8121L16111430I0F1N0B7212L16111430U112F0H015321331101131323BM0q17" ++
     "121M1F30Q22021U047121M191430V111F1H8121e120G05282O55H3N181026w1l111C5x1110141N1019119024N3W1" ++
     "0_171Z1R4p3g1K0G5433031724CC0n3eA132610132e1132W1132610132E1u1132Y2b1Fn3hJ2G1P5g2677HDIEHEC1" ++
     "2Fp1e10Z2Y11q1742X1105b2AUn1T24Bh14Ps1M9q1m5k1H7s1TD1Ah1QZ1f12ATn33151130wX13t_2t1OM96161616" ++
     "16161616dH0r104r2801v2405g11z2HVm1FWG_j6W2qmK1sZ1Z2d18h84FA1Y20n1b2f50d303612131MTp1En1-1530" ++
     "11BRAMPS7k1j1428A41e1N217KF15303n11031242010O13A70E525259616n4Y1TZzACM4m1ae8jB2f3Z20191C1410" ++
     "11111h3X1gBI_12r1e1Bq341c4f391i12U35252522Z1B1P1I111E2DY1w3bCS3m1l1VDJ176b1AT2Z147W4j2Y3d18p" ++
     "1y2p1Cs99LA7u45201h111302MAM9UX2I11ALAPc2t161W20F3121Sg1S3SZ171RRr1ALAIDHk3e2t5Z1c1310m9f161" ++
     "G2x1SA08Lg1Hk1KRMCq1v1120Di1W1OQZ1T0208Y130Cl1E3L010Z1H1OJ1_1610131E197k1c17212L16111430I0C4" ++
     "U910201b110P010i1q1I3K2Ul1K110u5k1f13a1l1K0x1g1D0d2Qb16v5h1p672027111NF010-272c1G010S0Ad170L" ++
     "0Bj1J0Ie2d6W1V81a1H0n1Tm36111b1L0P5111VE0dAIF01C1X1y30l2vSc7Z6io2W3FlX1H5Pwy35cIvr6TYt1uH7UH" ++
     "k2HTIl1p1K5IpDd1rCg250l5t_58rc1f19tt8Y9F0T220E38hCae2g35C3879mp80rFi1X10XATIh1aFQb7T20lF6131" ++
     "11E1a6xf131Q1110201913101060401010121110201010101011102316131310191G52141Gag4_sf1W1vX46z62Xq" ++
     "5Emf7FjJYj2zGYl1gw45_Y4"),
   (["lt", "titlecaseletter"], "bE02020c10ri778787C0F0l10"),
   (["lu", "uppercaseletter"],
    "X2Pb3M16X10101010101010101010101010101010101010101010101010101010201010101010101020101010101" ++
     "01010101010101010101010101010101010111010311011122311123111101011102011121011307020202010101" ++
     "01010101020101010101010101020201210101010101010101010101010101010101010101010101010101010107" ++
     "111201310101010X90103080601210111G18Z10223010101010101010101010105020112o1m10101010101010101" ++
     "01010101010101010901010101010101010101010101010101010101010101010101010111010101010102010101" ++
     "010101010101010101010101010101010101010101010101010101010101010101010101010101010101010102b1" ++
     "fw2b11050oMr2pa206g122WA01010101010101010101010101010101010101010101010101010101010101010101" ++
     "01010101010101010101010101010101010101010101010101010101010101010101010101010101090101010101" ++
     "0101010101010101010101010101010101010101010101010101010101010101010101010101010101010109785A" ++
     "78785B010101087e23C3C3C4B3c8040322220346010101323A150z10yp2l1m101220101013102082101010101010" ++
     "10101010101010101010101010101010101010101010101010101010101010101010101010101010101010801040" ++
     "jgU010101010101010101010101010101010101010101010J010101010101010101010101010d401010101010103" ++
     "0101010101010101010101010101010101010101010101010101010101010A010111010101040102010301010101" ++
     "010101010101414101010101010101310113050101010O0hvLPbc1d1e4Z1y4A1E1611gt1o1z4Lwv2VWiLVWjPPQPQ" ++
     "PQ01120212317QPQ1132716R113141036RPQPQPQPQPQPUOX1OX1OX1OX1OX10rf4X1"),
   (["m", "mark", "combiningmark"],
    "WOl3p86d8i110111110e2Am1KG0b36252113Z10UQx2Aw1890O3181214h12x18g1N1W1s121H16A1T2u1016212290A" ++
     "1Q022u1014412230U130B2u10171212K1M512u1016212272A1U0x14321390e14t1016121371B1T2u1016121371B1" ++
     "F0C3t1116121390A1T2c20451017I1z1026C7Y3028B6f21R0101041n1J115A1Z190a3JN342122633DB10A3_L2oT3" ++
     "S2T1U1W2V90j1210r31Y10s3B4Bx64v191S20m1Un14l1Gc18C2UCu1Dm1Ju421K406022c6_1mMW1-_22j40W3VgH5f" ++
     "31qkT319W11m21m803040N440p21o1HQHD0c17PCi13l1Da10Z2DC081j12o1012215110f1451i7711mvJ0XNFGFjU0" ++
     "Y70r44cq121153e1240b51zH3X24z91l23c2An13w32r1Ef1021A3j1A70z12a1DG1i10C2m1D8311y2B6020z4BL3t1" ++
     "116212290A12634Z281020131410E1o2HN0n2Jh7628R1o2Gg3Cb3EW8Er7511231011j462630S9e1613809Ak1FrC7" ++
     "17o2L1Dw3530111610Y241114xA39110m1634N0bd506EecBHWk24x16uW101s173n20B1hbJ1Xp4j12M-G4358726U3" ++
     "q42xz1s14n180E0M41Emg161G261114a30W56tB0z13yF3-71WN6j36rzbOl7"),
   (["mc", "spacingmark"],
    "Ze20t10228311o11w126121A0h10w12Y20w128011r11w10106121A0c31113212A0f12z13z11w1014211191S0E1w1" ++
     "25212A0g11h2267I1gA1_10h51406021P1A226L12520A2up10U0X407711wA3224115W71w1010901185n40m105014" ++
     "11z10U04120y10221031m1781h50L0sv41p_T120u21o1Fk41l10m114122k3121O0j1010j302150j71111110pWP01" ++
     "0_30j1241p30O1x10m1291D0z223110g52V1w1113212290A1q227020131110b328130g32601320j726320n328110" ++
     "j301160d301140b8290t7511402010k428340q20T1-10tC0E0g307020r644110-A1C0m118110elG2an3s1e31phO1" ++
     "65"),
   (["me", "enclosingmark"], "ea11qn50-m1312hiX12"),
   (["mn", "nonspacingmark"],
    "WOl3p84f8i110111110e2Am1KG0b36252113Z10UQx2Aw1890O3181214h12x18g1N1Vt1010474036A1T0w104380K1" ++
     "Q021v1041412230U130B1v10441140K1M510w1020138071B1U0z10C0o1030t1012521371B1T0w10206051K1S1v11" ++
     "4380K1T0e207210w2026C7Y3028B6f21R01010t1D14115A1Z190c33151121P142G3D02160F0_L2oT2T1U1U1W2116" ++
     "802A90j1210r31Y10s32419062x6120w10161010276920m1D1Fn13m10141050e18C1W132112u10113012w1721u42" ++
     "1C16406031c6_1mMC403B-_22j40W3VgH3h31qkT049W11m21m803040P150t41QHD0c17PAk12m102321d10Z252121" ++
     "C080l10p1012215110g1180k702040mvJ0XNFGFjU0Y70r44cq121153e1240b51zH3X24z91l23c2An13x30s1Ef102" ++
     "1A2n132170z12a1417-10C1q18A320_2220116020z4037L1v1130b1634c25D01010E1r272210N0q25104111k7361" ++
     "11R1r272011g30102510b30102314Z8811W811040m432140W19e1523809522k1C11sC61510o2L261111w35301116" ++
     "10e213010xA1B1q145010N0bd506EecBB32Wk24x16uW10_13n20ubJ1Xp4j12MWH2H726U3q42xz1s14n180E0M41Em" ++
     "g161G261114a30W56tB0z13yF3-71WN6j36rzbOl7"),
   (["n", "number"],
    "m19u315022Xj19c49c69yC9s3945i39s39s3925k3Cp3986d39e367Ij39W39s39c2Ji89c29lMJnR2l7969M9i99W4A" ++
     "b5969s59s29c4969sW103569c6o124sMx1k2LsJTfh10fO0P8E2tA3g49U71EW19d1EWxS9y59WA5w49c19c69M9s29s" ++
     "C9suK9jFi1Cu1H1rAQa13T080c44g69kT7P6d18h24M5W512F2j1W28q11U2h24e37O7f16gA5m1969s8U-49g13m36c" ++
     "4TW49y19m497Jx79sA9s39sB9c396Ji2BaDIz29sK9s2SZ79c29cD9c3KhX1k3XcF9cf29s29c4916kG9c8MvoN9ck1J" ++
     "CJi3OrY1n1Wg29cD9sF9t79iM8W49tOw11213i2i11EYUCZt29"),
   (["nd", "decimalnumber", "digit"],
    "m19cn19c49c69yC9s39s39s39s39s39s39s39s39s39W39s39c29s89c29cw19c19i99W49c5969s59s29c4969ckY19" ++
     "cL9c19c69M9s29sC9suK9ci19ca2969yO9W49y19m49s89sA9s39sB9c396Ji29cD9c39sK9s29s79c29cD9skG9cf29" ++
     "s29c49sG9sxN9qs2n1Wg29cD9sF9t79rQ9sq49"),
   (["nl", "letternumber"], "kt52lp2Y123-p30P8E2hrT9moMq1iE080c44gX8k3"),
   (["no", "othernumber"],
    "o515022rf25uB5u32b46v66H8nD9rX1JpZ19WF0rq103569c6Ff10sMx1k2LsJTfh10qa13g49U71EW19d1EmhT5ncMi" ++
     "1X23H1rAQa13qf17P6d18h24M5W512F2j1W28q11U2h24e37O7f16gA5WBU-49g13m36c4JxBJbg11kD8dRIpQKcyI6-" ++
     "OMfXPJCJi3Okg58XTw11213i2i11EYUC"),
   (["p", "punctuation", "punct"],
    "X121513A131Q210R010Z105030A13030-L080oE5f11p10102020i11K111D012g23c30h1Df72s1EV0b81A0i40u30v" ++
     "30cC0C0lB0w20A1e5E10b13d20g2441l35h50aJ8t40jJ0i11k22d21z4212b1Av91u61W4615W51A6S2y33x14-11W2" ++
     "7B0yPN8J1C1BU1E1vJ3T1zX1Dl21V9pCL_13W11xN311m30l4k11V2BZD2492BG0C0Y30w20YWT1j82Z30A0p35yB3s2" ++
     "1e1210n11l10X3CG1y33-31G1v70ogK1m69MY11D104011r421513A131Q210R01016wC2yK0m10-C0dN0d60V0m88c1" ++
     "0m36Y26v23nE0-90d54i13z56j3113-33m11l2340D012u25h30g9111o34A110e30w7Mf32SCi20Y42y70e82x40y27" ++
     "p2214z29t60_24g11bK1g2Cl50mZ14yx21xpE1b40X2480eH2d93dA0ybJ0dl74px20-Q1"),
   (["pc", "connectorpunctuation"], "_20_-71J0-kt11O2l70"),
   (["pd", "dashpunctuation"], "j10yg10p10Xo30bW10fW25Xm3020V140S0-D0J0l30mip11b10A0f50Wp30-90"),
   (["pe", "closepunctuation"],
    "f10p10V0zr3010-w10fj20t10F0wJ010U0-X10101010101010m20W1010101010qC010101010101010101010W2010" ++
     "X10bX10101010i10101010iD0101010103010101021-ep10v60T01010101010101030H01010g50p10V02020"),
   (["pf", "finalpunctuation"], "x50zw7030S0ek30104020F030"),
   (["pi", "initialpunctuation"], "h50ix702120P0ek30104020F030"),
   (["po", "otherpunctuation"],
    "X1212201011A131R0a2050E170-L080oE5f10s102020i11K111D012g23c30h1Df72s1EV0b81A0i40u30v30cC0C0l" ++
     "B0w20A1e5E10m30g2441l35h50aJ8bO0y32d21z4212b1513v91u61W4615W51A6S2y33x14-11W27B0YQ1878823223" ++
     "A1019wa3311m30l41422028111021A41923101C22iD2v10z50YWT1j82Z30A0p35yB3s21e1210n11l10X3CG1y33-3" ++
     "1G1v70anK620M0K1233213726011r4212201011A131R0a1021wC2yK0m10-C0dN0d60V0m88c10m36Y26v23uT4i13z" ++
     "56j3113-33m11l2340D012u25h30g9111o34A110e30w7Mf32SCi20Y42y70e82x40y27p2214z29t60_24g11bK1g2C" ++
     "l50mZ14yx21xpE1b40X2480eH2d93dA0ybJ0dl74px20-Q1"),
   (["ps", "openpunctuation"],
    "e10o10V0-r3010-w10-h2030c10t10F0wJ010U0-X10101010101010m20W1010101010qC010101010101010101010" ++
     "W2010X10bX10101010P0I0101010iD0101010103010101020Xfp10t60T01010101010101030H01010g50o10V0302" ++
     "0"),
   (["s", "symbol"],
    "a1060G2V010R010Z141120132030U0V0gE3CD56101Gr30E1m30h40g82s322021k60A0J1t7071e40fB161r70-30Y4" ++
     "7a40l60f10b60X62F01225K01010b47151153b61mN9pM0jB0aB0z4X1XB998WY1012B2D2D2D1b20D0d12D2JW1_111" ++
     "311A0125510101040B1445310w114tB4S2-7MAn2j2MdJi1m12UAoCM-14V2rB2V1e3b75bB1k1P1u2Cr6QF40D1C0L1" ++
     "61x21p7149W1b190GUBT80FVAc1F_9Wk6_1mqLs1vHM91d31z43A3zH2X70E1zzJ0e4GzBF_30i13Y301220w4060G2V" ++
     "010R010X4616D1v98v1G221C30l1i1wp11lI0bM1lj20ra2SgwI350sgK0Zx3l7GpDy4p3y1r7Ac12x152M17T4y1LX2" ++
     "30w5s2gR0P0V0P0V0P0V0P0V0P0y1_Ft13o171D11es10lD0ij2030z30XE1k8h14Z3CE2E1E1a1NW5u1SDh14871E5w" ++
     "4tU4G3C3s34-26B40FB4t1896d18T2B41-1pACD2C395t17E2A687o41x2"),
   (["sc", "currencysymbol"],
    "a10z33fd10x30oF1oF170r70d80bI0xi20ac2W1txX10ZkL0i30w40x6131s_73-um10mj20"),
   (["sk", "modifiersymbol"],
    "-2010d20604030fG3CD56101Gr30E1Ye10qv5012B2D2D2D1ya41ZpTM91d31mU0E1cYKGxR010Y50tWz14"),
   (["sm", "mathsymbol"],
    "h10G2z1010j1040b10V0-N0lG2xn60D0d12D2h40d1460a245140202070V12010Vh8W11w20UOe15rE090s17l30mA4" ++
     "2UAFW8Y4M-14V2X8m1K25y-p10uP012a50G2z1010Z4063Xj31nfo10P0V0P0V0P0V0P0V0P0iv51"),
   (["so", "othersymbol"],
    "c50204010nU0g81_31k60A0J1t70ZG0rB0Y4510a40l60f10dC2F01225K01010b47151153b61mN9pM0oM0z4X1XB99" ++
     "8Zi111311A0116510101040B1E01110w1194231111161U21101Ui874J262m21TPd16d2MAn2j2Ms5181r18k31t7i1" ++
     "h1W2_7WGl1L16c12V1e3b75bB1k1P1u2Cr6QF40D1C0L161mA149W1b190GUBT80FVAc1F_9Wk6_1mqLs1XR3A110zH2" ++
     "csKF_30j12aF03041D1v98v1G221C30l1i1wp11lI0sZ30ra274GgwI350sgK0Zx3l7GpDy4p3y1r7Ac12x152M17T4y" ++
     "1LX230w5s2fb1_Ft13o171D11es10yw20X40nMh14Z3CE2E1E1a1NW5u1SDh14871E5w4w75tM4G3C3s34-26B40FB4t" ++
     "1896d18T2B41-1pACD2C395t17E2A687o41x2"),
   (["z", "separator"], "W10_30_k50_h2AT150l10Wz30"),
   (["zl", "lineseparator"], "eX80"),
   (["zp", "paragraphseparator"], "fX80"),
   (["zs", "spaceseparator"], "W10_30_k50_h2Aa10l10Wz30")]

end HookGate.Text.Property
