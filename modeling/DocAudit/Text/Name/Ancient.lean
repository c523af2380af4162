/-!
# Names of code points: ancient

The names of the code points from 0x10000 to 0x1CFFF, in runs of consecutive ones. A name begins with
as many characters of the name before it as its mark says; a mark is a small letter, `a` for none, and
each plus sign in front of it counts for 26 more.
-/

namespace DocAudit.Text

/-- The first code point of each run, and the names of the run, in pieces. -/
def ancientNames : List (Nat × List String) := [
    (0x10000, ["aLINEAR B SYLLABLE B008 Au38 Eu28 Iu61 Ou10 Uu01 DAu45 DEu07 DIu14 DOu51 DUv7 JA",
      "u46 JE"]),
    (0x1000D, ["aLINEAR B SYLLABLE B036 JOu65 JUu77 KAu44 KEu67 KIu70 KOu81 KUv0 MAu13 MEu73 MI",
      "u15 MOu23 MUu06 NAu24 NEu30 NIu52 NOv5 NUu03 PAu72 PEu39 PIu11 POu50 PUu16 QAu78 QEu21 QI",
      "u32 QO"]),
    (0x10028, ["aLINEAR B SYLLABLE B060 RAu27 REu53 RIu02 ROu26 RUu31 SAu09 SEu41 SIu12 SOu58 SU",
      "v9 TAu04 TEu37 TIu05 TOu69 TUu54 WAu75 WEu40 WIv2 WO"]),
    (0x1003C, ["aLINEAR B SYLLABLE B017 ZAu74 ZE"]),
    (0x1003F, ["aLINEAR B SYLLABLE B020 ZOv5 A2u43 A3u85 AUu71 DWEu90 DWOu48 NWAu29 PU2u62 PTE",
      "u76 RA2u33 RA3u68 RO2v6 TA2u87 TWEu91 TWO"]),
    (0x10050, ["aLINEAR B SYMBOL B018t9s22s34s47t9s56s63t4s79s82t3t6t9"]),
    (0x10080, ["aLINEAR B IDEOGRAM B100 MANv2 WOMANv4 DEERv5 EQUIDwF MAREwM STALLIONv6F EWEwM RAM",
      "v7F SHE-GOATwM HE-GOATv8F SOWwM BOARv9F COWwM BULLu20 WHEATv1 BARLEYv2 OLIVEv3 SPICE",
      "v5 CYPERUSjMONOGRAM B127 KAPOv8 KANAKOjIDEOGRAM B130 OILv1 WINEv2jMONOGRAM B133 AREPAv5 MERI",
      "jIDEOGRAM B140 BRONZEv1 GOLDv2v5 WOOLv6u50v1 HORNv2v3v4jMONOGRAM B156 TURO2jIDEOGRAM B157v8",
      "v9 CLOTHu60v1v2 GARMENTv3 ARMOURv4v5v6v7v8v9u70v1v2v3 MONTHv4v6 TREEv7v8v9u80v1v2v3v4v5v9u90",
      "v1 HELMETt220 FOOTSTOOLv5 BATHTUBu30 SPEARv1 ARROWv2v3 SWORDv4v6u40 WHEELED CHARIOTv1 CHARIOT",
      "v2 CHARIOT FRAMEv3 WHEELv5v6jMONOGRAM B247 DIPTEjIDEOGRAM B248v9u51v2v3v4 DARTv5v6v7v8v9",
      "sVESSEL B155+a200+c1+c2+c3+c4+c5+c6+c7+c8+c9+b10+c1+c2+c3+c4+c5+c6+c7+c8+c9+b21+c2+c6+c7+c8",
      "+c9+b50+a305"]),
    (0x10100, ["aAEGEAN WORD SEPARATOR LINEwDOThCHECK MARK"]),
    (0x10107, ["aAEGEAN NUMBER ONEoTWOpHREEoFOURpIVEoSIXpEVENoEIGHToNINEoTENpWENTYpHIRTYoFORTYpIFTY",
      "oSIXTYpEVENTYoEIGHTYoNINETYoONE HUNDREDoTWO HUNDREDpHREE HUNDREDoFOUR HUNDREDpIVE HUNDRED",
      "oSIX HUNDREDpEVEN HUNDREDoEIGHT HUNDREDoNINE HUNDREDoONE THOUSANDoTWO THOUSANDpHREE THOUSAND",
      "oFOUR THOUSANDpIVE THOUSANDoSIX THOUSANDpEVEN THOUSANDoEIGHT THOUSANDoNINE THOUSAND",
      "oTEN THOUSANDpWENTY THOUSANDpHIRTY THOUSANDoFORTY THOUSANDpIFTY THOUSANDoSIXTY THOUSAND",
      "pEVENTY THOUSANDoEIGHTY THOUSANDoNINETY THOUSAND"]),
    (0x10137, ["aAEGEAN WEIGHT BASE UNIToFIRST SUBUNIToSECOND SUBUNIToTHIRD SUBUNIToFOURTH SUBUNIT",
      "hDRY MEASURE FIRST SUBUNIThLIQUID MEASURE FIRST SUBUNIThMEASURE SECOND SUBUNITpTHIRD SUBUNIT",
      "aGREEK ACROPHONIC ATTIC ONE QUARTER+bHALF+bDRACHMAxFIVEzFTYzVE HUNDRED+cTHOUSANDzFTY THOUSAND",
      "zVE TALENTSxTEN TALENTSxFIFTY TALENTSxONE HUNDRED TALENTSxFIVE HUNDRED TALENTS",
      "xONE THOUSAND TALENTSxFIVE THOUSAND TALENTS+cSTATERSxTEN STATERSxFIFTY STATERS",
      "xONE HUNDRED STATERSxFIVE HUNDRED STATERSxONE THOUSAND STATERSxTEN THOUSAND STATERS",
      "xFIFTY THOUSAND STATERSxTEN MNASrHERAEUM ONE PLETHRONrTHESPIAN ONErHERMIONIAN ONE",
      "rEPIDAUREAN TWOrTHESPIAN TWOrCYRENAIC TWO DRACHMASrEPIDAUREAN TWO DRACHMASrTROEZENIAN FIVE",
      "+cTEN+f ALTERNATE FORMrHERMIONIAN TENrMESSENIAN TENrTHESPIAN TEN+bHIRTYsROEZENIAN FIFTY",
      "+h ALTERNATE FORMrHERMIONIAN FIFTYrTHESPIAN FIFTY+aONE HUNDRED+aTHREE HUNDRED",
      "rEPIDAUREAN FIVE HUNDREDrTROEZENIAN FIVE HUNDREDsHESPIAN FIVE HUNDREDrCARYSTIAN FIVE HUNDRED",
      "rNAXIAN FIVE HUNDREDrTHESPIAN ONE THOUSAND+aFIVE THOUSANDrDELPHIC FIVE MNAS",
      "rSTRATIAN FIFTY MNASgONE HALF SIGNt ALTERNATE FORMgTWO THIRDS SIGNhHREE QUARTERS SIGN",
      "gYEAR SIGNgTALENT SIGNgDRACHMA SIGNgOBOL SIGNgTWO OBOLS SIGNhHREE OBOLS SIGNgFOUR OBOLS SIGN",
      "hIVE OBOLS SIGNgMETRETES SIGNgKYATHOS BASE SIGNgLITRA SIGNgOUNKIA SIGNgXESTES SIGN",
      "gARTABE SIGNiOURA SIGNgGRAMMA SIGNgTRYBLION BASE SIGNgZERO SIGNgONE QUARTER SIGN",
      "gSINUSOID SIGNgINDICTION SIGNaNOMISMA SIGN"]),
    (0x10190, ["aROMAN SEXTANS SIGNgUNCIA SIGNgSEMUNCIA SIGNiXTULA SIGNgDIMIDIA SEXTULA SIGN",
      "gSILIQUA SIGNgDENARIUS SIGNgQUINARIUS SIGNgSESTERTIUS SIGNgDUPONDIUS SIGNgAS SIGN",
      "gCENTURIAL SIGNaASCIA SYMBOL"]),
    (0x101A0, ["aGREEK SYMBOL TAU RHO"]),
    (0x101D0, ["aPHAISTOS DISC SIGN PEDESTRIANuLUMED HEADtTATTOOED HEADtCAPTIVEuHILDtWOMANtHELMET",
      "tGAUNTLETtTIARAtARROWtBOWtSHIELDtCLUBtMANACLESvTTOCKtSAWtLIDtBOOMERANGtCARPENTRY PLANEtDOLIUM",
      "tCOMBtSLINGtCOLUMNtBEEHIVEtSHIPtHORNuIDEtBULLS LEGtCATtRAMtEAGLEtDOVEtTUNNYtBEEtPLANE TREE",
      "tVINEtPAPYRUStROSETTEtLILYtOX BACKtFLUTEtGRATERtSTRAINERuMALL AXEtWAVY BAND",
      "tCOMBINING OBLIQUE STROKE"]),
    (0x10280, ["aLYCIAN LETTER AoEoBpHoGoDoIoWoZoTHoJoKoQoLoMoNoMMoNNoUoPoKKoRoSoTpToANoENoHoX"]),
    (0x102A0, ["aCARIAN LETTER AoP2oDoLoUUUoRoLDoA2oQoBoMoOoD2oToSHq2poC-18oUoNNoXoNoTT2oPoSSoIoE",
      "oUUUUoKp2oNDoUUoGp2oSTq2oNGoIIoC-39oTToUUU2oRRoMBq2q3q4oLD2oE2oUUU3"]),
    (0x102E0, ["aCOPTIC EPACT THOUSANDS MARKnDIGIT ONEtTWOuHREEtFOURuIVEtSIXuEVENtEIGHTtNINE",
      "nNUMBER TENvWENTYvHIRTYuFORTYvIFTYuSIXTYvEVENTYuEIGHTYuNINETYuONE HUNDREDuTWO HUNDRED",
      "vHREE HUNDREDuFOUR HUNDREDvIVE HUNDREDuSIX HUNDREDvEVEN HUNDREDuEIGHT HUNDREDuNINE HUNDRED"]),
    (0x10300, ["aOLD ITALIC LETTER AsBEsKEsDEsEsVEsZEsHEsTHEsIsKAsELtMtNtSHsOsPEsSHEsKUsERtSsTEsU",
      "sEKSsPHEsKHEsEFtRSsCHEsIIsUUsESSlNUMERAL ONEtFIVEtTENtFIFTY"]),
    (0x1032D, ["aOLD ITALIC LETTER YEsNORTHERN TSEsSOUTHERN TSEaGOTHIC LETTER AHSAoBAIRKANoGIBAoDAGS",
      "oAIHVUSoQAIRTHRAoIUJAoHAGLoTHIUTHoEISoKUSMAoLAGUSoMANNAoNAUTHSoJERoURUSoPAIRTHRAoNINETYoRAIDA",
      "oSAUILoTEIWSoWINJAoFAIHUoIGGWSoHWAIRoOTHALoNINE HUNDRED"]),
    (0x10350, ["aOLD PERMIC LETTER ANsBURsGAIsDOIsEsZHOIsDZHOIsZATAsDZITAsIsKOKEsLEIsMENOEsNENOE",
      "sVOOIsPEEIsREIsSIIsTAIsUsCHERYsSHOOIuCHOOIsYRYtERUsOtOsEFsHAsTSIUsVERsYERvItATsIEsYUtAsIA",
      "aCOMBINING OLD PERMIC LETTER AN+cDOI+cZATA+cNENOE+cSII"]),
    (0x10380, ["aUGARITIC LETTER ALPAqBETAqGAMLAqKHAqDELTAqHOqWOqZETAqHOTAqTETqYODqKAFqSHINqLAMDA",
      "qMEMqDHALqNUNqZUqSAMKAqAINqPUqSADEqQOPAqRASHAqTHANNAqGHAINqTOqIqUqSSU"]),
    (0x1039F, ["aUGARITIC WORD DIVIDERaOLD PERSIAN SIGN ArIrUrKAsUrGAsUrXArCArJAsIrTAsUrDAsIsUrTHA",
      "rPArBArFArNAsUrMAsIsUrYArVAsIrRAsUrLArSArZArSHAsSArHA"]),
    (0x103C8, ["aOLD PERSIAN SIGN AURAMAZDAA+b-2+bHArXSHAAYATHIYArDAHYAAUSH+a-2rBAGAsUUMISH",
      "mWORD DIVIDERmNUMBER ONEtTWOuENuWENTYtHUNDRED"]),
    (0x10400, ["aDESERET CAPITAL LETTER LONG I+cE+cA+dH+cO+dOxSHORT I+dE+dA+eH+dO+eOxAYxOWxWUxYEExH",
      "xPEExBEExTEExDEExCHEExJEExKAYxGAYxEFxVEExETHxTHEExESxZEExESHxZHEExERyLyMyNzGxOIxEW",
      "iSMALL LETTER LONG I+aE+aA+bH+aO+bOvSHORT I+bE+bA+cH+bO+cOvAYvOWvWUvYEEvHvPEEvBEEvTEEvDEE",
      "vCHEEvJEEvKAYvGAYvEFvVEEvETHvTHEEvESvZEEvESHvZHEEvERwLwMwNxGvOIvEWaSHAVIAN LETTER PEEPpTOT",
      "pKICKpFEEpTHIGHpSOqUREpCHURCHpYEApHUNGpBIBpDEADpGAGpVOWpTHEYpZOOpMEASUREpJUDGEpWOEpHA-HApLOLL",
      "pMIMEpIFpEGGpASHqDOpONpWOOLpOUTpAHpROARpNUNpEATpAGEpICEpUPpOAKqOZEqILpAWEqREpORpAIRpERRpARRAY",
      "pEARpIANpYEWaOSMANYA LETTER ALEFpBApTApJApXApKHApDEELpRApSAqHIINpDHApCAYNpGApFApQAAFpKAAF",
      "pLAANpMIINpNUUNpWAWpHApYApApEpIpOpUpAApEEpOO"]),
    (0x104A0, ["aOSMANYA DIGIT ZEROoONEoTWOpHREEoFOURpIVEoSIXpEVENoEIGHToNINE"]),
    (0x104B0, ["aOSAGE CAPITAL LETTER AwIxNwHvBRAvCHAvEHCHAwwINvHAwYAvIvKAvEHKAvKYAvLAvMAvNAvOwINvPA",
      "vEHPAvSAwHAvTAvEHTAvTSAvEHTSAvTSHAvDHAvUvWAvKHAvGHAvZAwHA"]),
    (0x104D8, ["aOSAGE SMALL LETTER AuIvNuHtBRAtCHAtEHCHAuuINtHAuYAtItKAtEHKAtKYAtLAtMAtNAtOuINtPA",
      "tEHPAtSAuHAtTAtEHTAtTSAtEHTSAtTSHAtDHAtUtWAtKHAtGHAtZAuHA"]),
    (0x10500, ["aELBASAN LETTER ApBEpCEqHEpDEpNDEpDHEpEIqpFEpGEqJEpHEpIpJEpKEpLEqLEpMEpNEqAqJEpOpPE",
      "pQEpREqREpSEqHEpTEqHEpUpVEpXEpYpZEqHEpGHErAMMApKHE"]),
    (0x10530, ["aCAUCASIAN ALBANIAN LETTER ALT+aBET+aGIM+aDAT+aEB+aZARL+aEYN+aZHIL+aTAS+aCHA+aYOWD",
      "+aZHA+aIRB+aSHA+aLAN+aINYA+aXEYN+aDYAN+aCAR+aJHOX+aKAR+aLYIT+aHEYT+aQAY+aAOR+aCHOY+cI+bYAY",
      "+aMAQ+aQAR+aNOWC+aDZYAY+aSHAK+aJAYN+aON+aTYAY+aFAM+aDZAY+aCHAT+aPEN+aGHEYS+aRAT+aSEYK+aVEYZ",
      "+aTIWR+aSHOY+aIWN+aCYAW+bAYN+aYAYD+aPIWR+aKIW"]),
    (0x1056F, ["aCAUCASIAN ALBANIAN CITATION MARKaVITHKUQI CAPITAL LETTER AyBBEzEyCEzHEyDEzHEyEIzyFE",
      "yGA"]),
    (0x1057C, ["aVITHKUQI CAPITAL LETTER HAzHAyIzJEyJEyKAyLAzLAyMEyNEzJEyOyPEyQAyRE"]),
    (0x1058C, ["aVITHKUQI CAPITAL LETTER SEzHEyTEzHEyUyVEyXE"]),
    (0x10594, ["aVITHKUQI CAPITAL LETTER YyZE"]),
    (0x10597, ["aVITHKUQI SMALL LETTER AwBBExEwCExHEwDExHEwEIxwFEwGA"]),
    (0x105A3, ["aVITHKUQI SMALL LETTER HAxHAwIxJEwJEwKAwLAxLAwMEwNExJEwOwPEwQAwRE"]),
    (0x105B3, ["aVITHKUQI SMALL LETTER SExHEwTExHEwUwVEwXE"]),
    (0x105BB, ["aVITHKUQI SMALL LETTER YwZE"]),
    (0x10600, ["aLINEAR A SIGN AB001s2s3s4s5s6s7s8s9r10s1s3s6s7r20s1tFtMs2tFtMs3tMs4s6s7s8p028BpB029",
      "r30s1s4s7s8s9r40s1s4s5s6s7s8s9r50s1s3s4s5s6s7s8s9r60s1s5s6s7s9r70s3s4s6s7s8s9r80s1s2s5s6s7",
      "p100-102pB118r20p120BpB122s3r31AtBp131CpB164r71r80s8r91p301r2r3r4r5r6r7r8r9AsBsCq10r1r2r3AsB",
      "sCr4r5r6r7r8r9q20r1r2r3r4r5r6r7r8r9q30r1r2r3r4r5r6r7r8r9q40r1r2r3r4r5r6r7r8r9q50r1r2r3r4r5r6",
      "r7r8r9q60r1r2r3r4r5r6r7r8r9q70r1p400-VASr1-VASr2-VASr3-VASr4-VASr5-VASr6-VASr7-VASr8-VAS",
      "r9-VASq10-VASr1-VASr2-VASr3-VASr4-VASr5-VASr6-VASr7-VASr8-VASp501r2r3r4r5r6r8r9q10r1r2r3r5r6",
      "q20r1r3r4r5r6r7r8r9q30r1r2r4r5r6r7r8r9q40r1r2r5r7r8r9q50r1r2r3r4r5r6r7r9q63r4r5r6r8r9q70r1r2",
      "r3r4r5r6r7r8r9q80r1r2r3r4r5r6r7r8r9q91r2r4r5r6r8p600r1r2r3r4r6r8r9q10r1r2r3r4r5r6r7r8r9q20r1",
      "r2r3r4r6r7r8r9q34r7r8q40r2r3r4r5r6r8r9q51r2r3r4r5r6r7r8r9q60r1r2r3r4"]),
    (0x10740, ["aLINEAR A SIGN A701 Ar2 Br3 Dr4 Er5 Fr6 Hr7 Jr8 Kr9 Ls-2 L2t3 L3t4 L4t6 L6q10 Wr1 X",
      "r2 Yr3 OMEGAr4 ABBr5 BBr7 DDq26 EYYYq32 JE"]),
    (0x10760, ["aLINEAR A SIGN A800r1r2r3r4r5r6r7"]),
    (0x10780, ["aMODIFIER LETTER SMALL CAPITAL AArUPERSCRIPT TRIANGULAR COLON+cHALF TRIANGULAR COLON",
      "rMALL AEwCAPITAL BwB WITH HOOK"]),
    (0x10787, ["aMODIFIER LETTER SMALL DZ DIGRAPH+g WITH RETROFLEX HOOK+mCURLxEZH DIGRAPHx WITH TAIL",
      "+dHOOK+h AND TAILwREVERSED EwCLOSED REVERSED OPEN EwFENG DIGRAPHwRAMS HORNwCAPITAL G",
      "wG WITH HOOKwCAPITAL G WITH HOOKwH WITH STROKEwCAPITAL HwHENG WITH HOOK",
      "wDOTLESS J WITH STROKE AND HOOKwLS DIGRAPHxZ DIGRAPHx WITH BELTwCAPITAL L WITH BELT",
      "wL WITH RETROFLEX HOOK AND BELTxEZH+a WITH RETROFLEX HOOKwTURNED Y+e WITH BELTwO WITH STROKE",
      "wCAPITAL OExLOSED OMEGAwQwTURNED R WITH LONG LEG+s AND RETROFLEX HOOKwR WITH TAIL+dFISHHOOK",
      "wCAPITAL RwTC DIGRAPH WITH CURLxS DIGRAPH+g WITH RETROFLEX HOOKxESH DIGRAPH",
      "x WITH RETROFLEX HOOKwV WITH RIGHT HOOK"]),
    (0x107B2, ["aMODIFIER LETTER SMALL CAPITAL YqGLOTTAL STOP WITH STROKE",
      "qREVERSED GLOTTAL STOP WITH STROKEqBILABIAL CLICKqDENTAL CLICKqLATERAL CLICKqALVEOLAR CLICK",
      "qRETROFLEX CLICK WITH RETROFLEX HOOKqSMALL S WITH CURL"]),
    (0x10800, ["aCYPRIOT SYLLABLE ArErIrOrUrJA"]),
    (0x10808, ["aCYPRIOT SYLLABLE JO"]),
    (0x1080A, ["aCYPRIOT SYLLABLE KAsEsIsOsUrLAsEsIsOsUrMAsEsIsOsUrNAsEsIsOsUrPAsEsIsOsUrRAsEsIsOsU",
      "rSAsEsIsOsUrTAsEsIsOsUrWAsEsIsO"]),
    (0x10837, ["aCYPRIOT SYLLABLE XAsE"]),
    (0x1083C, ["aCYPRIOT SYLLABLE ZA"]),
    (0x1083F, ["aCYPRIOT SYLLABLE ZOaIMPERIAL ARAMAIC LETTER ALEPHyBETHyGIMELyDALETHyHEyWAWyZAYIN",
      "yHETHyTETHyYODHyKAPHyLAMEDHyMEMyNUNySAMEKHyAYINyPEySADHEyQOPHyRESHySHINyTAW"]),
    (0x10857, ["aIMPERIAL ARAMAIC SECTION SIGNrNUMBER ONEyTWOzHREEzENzWENTYyONE HUNDRED+cTHOUSAND",
      "yTEN THOUSANDaPALMYRENE LETTER ALEPHrBETHrGIMELrDALETHrHErWAWrZAYINrHETHrTETHrYODHrKAPH",
      "rLAMEDHrMEMrFINAL NUNrNUNrSAMEKHrAYINrPErSADHErQOPHrRESHrSHINrTAWmFT-POINTING FLEURON",
      "kRIGHT-POINTING FLEURONkNUMBER ONErTWOsHREErFOURsIVErTENsWENTYaNABATAEAN LETTER FINAL ALEPH",
      "rALEPHrFINAL BETHrBETHrGIMELrDALETHrFINAL HErHErWAWrZAYINrHETHrTETHrFINAL YODHrYODH",
      "rFINAL KAPHrKAPHrFINAL LAMEDHrLAMEDHrFINAL MEMrMEMrFINAL NUNrNUNrSAMEKHrAYINrPErSADHErQOPH",
      "rRESHrFINAL SHINrSHINrTAW"]),
    (0x108A7, ["aNABATAEAN NUMBER ONErTWOsHREErFOURkCRUCIFORM NUMBER FOURkNUMBER FIVErTENsWENTY",
      "rONE HUNDRED"]),
    (0x108E0, ["aHATRAN LETTER ALEPHoBETHoGIMELoDALETH-RESHoHEoWAWoZAYNoHETHoTETHoYODHoKAPHoLAMEDH",
      "oMEMoNUNoSAMEKHoAYNoPEoSADHEoQOPH"]),
    (0x108F4, ["aHATRAN LETTER SHINoTAW"]),
    (0x108FB, ["aHATRAN NUMBER ONEoFIVEoTENpWENTYoONE HUNDREDaPHOENICIAN LETTER ALFsBETsGAMLsDELTsHE",
      "sWAUsZAIsHETsTETsYODsKAFsLAMDsMEMsNUNsSEMKsAINsPEsSADEsQOFsROSHsSHINsTAUlNUMBER ONEsTENtWENTY",
      "sONE HUNDREDsTWOtHREE"]),
    (0x1091F, ["aPHOENICIAN WORD SEPARATORaLYDIAN LETTER AoBoGoDoEoVoIoYoKoLoMoNoOoRoSSoToUoFoQoSoTT",
      "oANoENoLYoNNoC"]),
    (0x1093F, ["aLYDIAN TRIANGULAR MARK"]),
    (0x10980, ["aMEROITIC HIEROGLYPHIC LETTER A+dE+dI+dO+dYA+dWA+dBA+f-2+dPA+dMA+dNA+f-2+eE+f-2+dRA",
      "+f-2+dLA+dKHA+dHHA+dSA+f-2+eE+dKA+dQA+dTA+f-2+eE+f-2+eO+dDAwSYMBOL VIDJ+h-2jCURSIVE LETTER A",
      "yEyIyOyYAyWAyBAyPAyMAyNAzEyRAyLAyKHAyHHAySAyARCHAIC SAySEyKAyQAyTAzEzOyDA"]),
    (0x109BC, ["aMEROITIC CURSIVE FRACTION ELEVEN TWELFTHS+aONE HALFrLOGOGRAM RMT+aIMNrNUMBER ONE",
      "yTWOzHREEyFOURzIVEySIXzEVENyEIGHTyNINEyTENzWENTYzHIRTYyFORTYzIFTYySIXTYzEVENTY"]),
    (0x109D2, ["aMEROITIC CURSIVE NUMBER ONE HUNDREDyTWO HUNDREDzHREE HUNDREDyFOUR HUNDRED",
      "zIVE HUNDREDySIX HUNDREDzEVEN HUNDREDyEIGHT HUNDREDyNINE HUNDREDyONE THOUSANDyTWO THOUSAND",
      "zHREE THOUSANDyFOUR THOUSANDzIVE THOUSANDySIX THOUSANDzEVEN THOUSANDyEIGHT THOUSAND",
      "yNINE THOUSANDyTEN THOUSANDzWENTY THOUSANDzHIRTY THOUSANDyFORTY THOUSANDzIFTY THOUSAND",
      "ySIXTY THOUSANDzEVENTY THOUSANDyEIGHTY THOUSANDyNINETY THOUSANDyONE HUNDRED THOUSAND",
      "yTWO HUNDRED THOUSANDzHREE HUNDRED THOUSANDyFOUR HUNDRED THOUSANDzIVE HUNDRED THOUSAND",
      "ySIX HUNDRED THOUSANDzEVEN HUNDRED THOUSANDyEIGHT HUNDRED THOUSANDyNINE HUNDRED THOUSAND",
      "rFRACTION ONE TWELFTH+aTWO TWELFTHS+bHREE TWELFTHS+aFOUR TWELFTHS+bIVE TWELFTHS+aSIX TWELFTHS",
      "+bEVEN TWELFTHS+aEIGHT TWELFTHS+aNINE TWELFTHS+aTEN TWELFTHSaKHAROSHTHI LETTER AlVOWEL SIGN I",
      "wUwVOCALIC R"]),
    (0x10A05, ["aKHAROSHTHI VOWEL SIGN EwO"]),
    (0x10A0C, ["aKHAROSHTHI VOWEL LENGTH MARKlSIGN DOUBLE RING BELOWqANUSVARAqVISARGAlLETTER KAtHA",
      "sGAtHA"]),
    (0x10A15, ["aKHAROSHTHI LETTER CAtHAsJA"]),
    (0x10A19, ["aKHAROSHTHI LETTER NYAsTTAuHAsDDAuHAsNNAsTAtHAsDAtHAsNAsPAtHAsBAtHAsMAsYAsRAsLAsVA",
      "sSHAtSAtAsZAsHAsKKAsTTTHAvAsVHA"]),
    (0x10A38, ["aKHAROSHTHI SIGN BAR ABOVEqCAUDAqDOT BELOW"]),
    (0x10A3F, ["aKHAROSHTHI VIRAMAlDIGIT ONErTWOsHREErFOURlNUMBER TENtWENTYsONE HUNDREDwTHOUSAND",
      "lFRACTION ONE HALF"]),
    (0x10A50, ["aKHAROSHTHI PUNCTUATION DOTxSMALL CIRCLExCIRCLEyRESCENT BARxMANGALAMxLOTUSxDANDA",
      "yOUBLE DANDAxLINES"]),
    (0x10A60, ["aOLD SOUTH ARABIAN LETTER HEzLAMEDHzHETHzMEMzQOPHzWAWzSHINzRESHzBETHzTAWzSATzKAPH",
      "zNUNzKHETHzSADHE+bMEKHzFEzALEF+aYNzDHADHEzGIMELzDALETHzGHAYNzTETHzZAYNzDHALETHzYODHzTHAW+bETH",
      "sNUMBER ONEzFIFTYvERIC INDICATOReNORTH ARABIAN LETTER HEHzLAMzHAHzMEEMzQAFzWAWzES-2zREHzBEH",
      "zTEHzES-1zKAFzNOONzKHAHzSADzES-3zFEHzALEF+aINzDADzGEEMzDALzGHAINzTAHzZAINzTHALzYEHzTHEHzZAH",
      "sNUMBER ONEzTEN+aWENTY"]),
    (0x10AC0, ["aMANICHAEAN LETTER ALEPHsBETHtHETHsGIMELtHIMELsDALETHsHEsWAWlSIGN UDlLETTER ZAYIN",
      "tHAYINsJAYINtHAYINsHETHsTETHsYODHsKAPHsXAPHsKHAPHsLAMEDHsDHAMEDHsTHAMEDHsMEMsNUNsSAMEKHsAYIN",
      "tAYINsPEsFEsSADHEsQOPHsXOPHsQHOPHsRESHsSHINtSHINsTAWlABBREVIATION MARK ABOVE+dBELOW"]),
    (0x10AEB, ["aMANICHAEAN NUMBER ONEsFIVEsTENtWENTYsONE HUNDREDlPUNCTUATION STARxFLEURON",
      "xDOUBLE DOT WITHIN DOTzT WITHIN DOT+axTWO DOTSxLINE FILLER"]),
    (0x10B00, ["aAVESTAN LETTER AqAqOqAOqNqANqErEpEqEpOqOpIqIpUqUpKEpXEqYEqVEpGEqGEqHEpCEpJEpTEqHE",
      "pDEqHEpTTEpPEpFEpBEqHEpNGErYErVEqEqYEqNEpMEpHMEpYYEqEpVEpREpLEpSEpZEpSHEpZHEpSHYEqSHEpHE"]),
    (0x10B39, ["aAVESTAN ABBREVIATION MARKaTINY TWO DOTS OVER ONE DOT PUNCTUATION",
      "aSMALL TWO DOTS OVER ONE DOT PUNCTUATIONaLARGE TWO DOTS OVER ONE DOT PUNCTUATION",
      "gONE DOT OVER TWO DOTS PUNCTUATIONgTWO RINGS OVER ONE RING PUNCTUATION",
      "gONE RING OVER TWO RINGS PUNCTUATIONaINSCRIPTIONAL PARTHIAN LETTER ALEPH+eBETH+eGIMEL+eDALETH",
      "+eHE+eWAW+eZAYIN+eHETH+eTETH+eYODH+eKAPH+eLAMEDH+eMEM+eNUN+eSAMEKH+eAYIN+ePE+eSADHE+eQOPH",
      "+eRESH+eSHIN+eTAW"]),
    (0x10B58, ["aINSCRIPTIONAL PARTHIAN NUMBER ONE+eTWO+fHREE+eFOUR+eTEN+fWENTY+eONE HUNDRED",
      "+iTHOUSANDqHLAVI LETTER ALEPH+dBETH+dGIMEL+dDALETH+dHE+dWAW-AYIN-RESH+dZAYIN+dHETH+dTETH",
      "+dYODH+dKAPH+dLAMEDH+dMEM-QOPH+dNUN+dSAMEKH+dPE+dSADHE+eHIN+dTAW"]),
    (0x10B78, ["aINSCRIPTIONAL PAHLAVI NUMBER ONE+dTWO+eHREE+dFOUR+dTEN+eWENTY+dONE HUNDRED",
      "+hTHOUSANDaPSALTER PAHLAVI LETTER ALEPHxBETHxGIMELxDALETHxHExWAW-AYIN-RESHxZAYINxHETHxYODH",
      "xKAPHxLAMEDHxMEM-QOPHxNUNxSAMEKHxPExSADHEyHINxTAW"]),
    (0x10B99, ["aPSALTER PAHLAVI SECTION MARKqTURNED SECTION MARKqFOUR DOTS WITH CROSS+fDOT"]),
    (0x10BA9, ["aPSALTER PAHLAVI NUMBER ONExTWOyHREExFOURxTENyWENTYxONE HUNDRED"]),
    (0x10C00, ["aOLD TURKIC LETTER ORKHON AsYENISEI A+bEsORKHON IsYENISEI I+aEsORKHON O+aE",
      "sYENISEI OEsORKHON ABsYENISEI ABsORKHON AEBsYENISEI AEBsORKHON AGsYENISEI AGsORKHON AEG",
      "sYENISEI AEGsORKHON ADsYENISEI ADsORKHON AEDzEZsYENISEI EZsORKHON AYsYENISEI AYsORKHON AEY",
      "sYENISEI AEYsORKHON AEKsYENISEI AEKsORKHON OEKsYENISEI OEKsORKHON ALsYENISEI ALsORKHON AEL",
      "zELT+aMzAN+aENsYENISEI AENsORKHON ENTsYENISEI ENTsORKHON ENCsYENISEI ENCsORKHON ENY",
      "sYENISEI ENY+aANGsORKHON ENGsYENISEI AENGsORKHON EPzOPzICzECsYENISEI ECsORKHON AQsYENISEI AQ",
      "sORKHON IQsYENISEI IQsORKHON OQsYENISEI OQsORKHON ARsYENISEI ARsORKHON AER+aS+aES+aSH",
      "sYENISEI ASHsORKHON ESHsYENISEI ESHsORKHON ATsYENISEI ATsORKHON AETsYENISEI AETsORKHON OT",
      "zBASH"]),
    (0x10C80, ["aOLD HUNGARIAN CAPITAL LETTER A+eA+dEB+dAMB+dEC+eNC+eCS+eD+dAND+dE+dCLOSE E+dEE+eF",
      "+eG+fY+eH+dI+eI+dEJ+eK+dAK+dUNK+dEL+fY+eM+eN+fY+dO+eO+dNIKOLSBURG OE+dRUDIMENTA OE+dOEE+dEP",
      "+eMP+eR+dSHORT ER+dES+fZ+eT+eNT+eTY+eCH+dU+eU+dNIKOLSBURG UE+dRUDIMENTA UE+dEV+eZ+fS",
      "+eNT-SHAPED SIGN+dUS"]),
    (0x10CC0, ["aOLD HUNGARIAN SMALL LETTER A+cA+bEB+bAMB+bEC+cNC+cCS+cD+bAND+bE+bCLOSE E+bEE+cF+cG",
      "+dY+cH+bI+cI+bEJ+cK+bAK+bUNK+bEL+dY+cM+cN+dY+bO+cO+bNIKOLSBURG OE+bRUDIMENTA OE+bOEE+bEP+cMP",
      "+cR+bSHORT ER+bES+dZ+cT+cNT+cTY+cCH+bU+cU+bNIKOLSBURG UE+bRUDIMENTA UE+bEV+cZ+dS",
      "+cNT-SHAPED SIGN+bUS"]),
    (0x10CFA, ["aOLD HUNGARIAN NUMBER ONEvFIVEvTENvFIFTYvONE HUNDREDzTHOUSAND",
      "aHANIFI ROHINGYA LETTER AxBAxPAxTAyTAxJAxCAxHAxKHAxFAxDAyDAxRAyRAxZAxSAyHAxKAxGAxLAxMAxNAxWA",
      "xKINNA WAxYAxKINNA YAxNGAyYAxVAqVOWEL AwIwUwEwOqMARK SAKINvNA KHONNAqSIGN HARBAHAYvTAHALAxNA",
      "xSSI"]),
    (0x10D30, ["aHANIFI ROHINGYA DIGIT ZEROwONEwTWOxHREEwFOURxIVEwSIXxEVENwEIGHTwNINE"]),
    (0x10E60, ["aRUMI DIGIT ONElTWOmHREElFOURmIVElSIXmEVENlEIGHTlNINEfNUMBER TENnWENTYnHIRTYmFORTY",
      "nIFTYmSIXTYnEVENTYmEIGHTYmNINETYmONE HUNDREDmTWO HUNDREDnHREE HUNDREDmFOUR HUNDRED",
      "nIVE HUNDREDmSIX HUNDREDnEVEN HUNDREDmEIGHT HUNDREDmNINE HUNDREDfFRACTION ONE HALFsQUARTER",
      "sTHIRDoTWO THIRDS"]),
    (0x10E80, ["aYEZIDI LETTER ELIFoBEoPEpHEoTHEoSEoCIMpHIMqHIMoHHAoXAoDALoZALoRApHAoZAoJAoSINpHIN",
      "pADoDADoTAoZEoEYNoXHEYNoFAoVAq ALTERNATE FORMoQAFoKAFpHAFoGAFoLAMoMIMoNUNoUMoWAWoOWoEWoHAY",
      "oYOToET"]),
    (0x10EAB, ["aYEZIDI COMBINING HAMZA MARKrMADDA MARKhHYPHENATION MARK"]),
    (0x10EB0, ["aYEZIDI LETTER LAM WITH DOT ABOVEoYOT WITH CIRCUMFLEX ABOVE"]),
    (0x10F00, ["aOLD SOGDIAN LETTER ALEPHtFINAL ALEPHtBETHtFINAL BETHtGIMELtHEtFINAL HEtWAWtZAYIN",
      "tHETHtYODHtKAPHtLAMEDHtMEMtNUNtFINAL NUN+c WITH VERTICAL TAILtSAMEKHtAYINuLTERNATE AYINtPE",
      "tSADHEtFINAL SADHE+e WITH VERTICAL TAILtRESH-AYIN-DALETHtSHINtTAWtFINAL TAW",
      "+c WITH VERTICAL TAILmNUMBER ONEtTWOuHREEtFOURuIVEtTENuWENTYuHIRTYtONE HUNDRED",
      "mFRACTION ONE HALFmLIGATURE AYIN-DALETH"]),
    (0x10F30, ["aSOGDIAN LETTER ALEPHpBETHpGIMELpHEpWAWpZAYINpHETHpYODHpKAPHpLAMEDHpMEMpNUNpSAMEKH",
      "pAYINpPEpSADHEpRESH-AYINpSHINpTAWpFETHpLESHiINDEPENDENT SHINiCOMBINING DOT BELOW",
      "sTWO DOTS BELOWsDOT ABOVEsTWO DOTS ABOVEsCURVE ABOVEyBELOWsHOOK ABOVExBELOWsLONG HOOK BELOW",
      "sRESH BELOWsSTROKE BELOWiNUMBER ONEpTENqWENTYpONE HUNDREDiPUNCTUATION TWO VERTICAL BARS",
      "+l WITH DOTSuCIRCLE WITH DOTuTWO CIRCLES WITH DOTSuHALF CIRCLE WITH DOT"]),
    (0x10F70, ["aOLD UYGHUR LETTER ALEPHsBETHsGIMEL-HETHsWAWsZAYINsFINAL HETHsYODHsKAPHsLAMEDHsMEM",
      "sNUNsSAMEKHsPEsSADHEsRESHsSHINsTAWsLESHlCOMBINING DOT ABOVEzBELOWvTWO DOTS ABOVE+eBELOW",
      "lPUNCTUATION BARxTWO BARS+bDOTSxFOUR DOTS"]),
    (0x10FB0, ["aCHORASMIAN LETTER ALEPHsSMALL ALEPHsBETHsGIMELsDALETHsHEsWAWsCURLED WAWsZAYINsHETH",
      "sYODHsKAPHsLAMEDHsMEMsNUNsSAMEKHsAYINsPEsRESHsSHINsTAWlNUMBER ONEsTWOtHREEsFOURsTENtWENTY",
      "sONE HUNDRED"]),
    (0x10FE0, ["aELYMAIC LETTER ALEPHpBETHpGIMELpDALETHpHEpWAWpZAYINpHETHpTETHpYODHpKAPHpLAMEDHpMEM",
      "pNUNpSAMEKHpAYINpPEpSADHEpQOPHpRESHpSHINpTAWjIGATURE ZAYIN-YODH"]),
    (0x11000, ["aBRAHMI SIGN CANDRABINDUmANUSVARAmVISARGAmJIHVAMULIYAmUPADHMANIYAhLETTER ApAoIpIoUpU",
      "oVOCALIC RxRwLxLoEoAIoOoAUoKApHAoGApHAoNGAoCApHAoJApHAoNYAoTTAqHAoDDAqHAoNNAoTApHAoDApHAoNA",
      "oPApHAoBApHAoMAoYAoRAoLAoVAoSHApSApAoHAoLLAoOLD TAMIL LLLAyRRAyNNNAhVOWEL SIGN AA",
      "sBHATTIPROLU AAsItIsUtUsVOCALIC R+bR+aL+bLsEsAIsOsAUiIRAMAhDANDAiOUBLE DANDAhPUNCTUATION DOT",
      "vUBLE DOTtLINEtCRESCENT BARtLOTUS"]),
    (0x11052, ["aBRAHMI NUMBER ONEoTWOpHREEoFOURpIVEoSIXpEVENoEIGHToNINEoTENpWENTYpHIRTYoFORTYpIFTY",
      "oSIXTYpEVENTYoEIGHTYoNINETYoONE HUNDREDsTHOUSANDhDIGIT ZEROnONEnTWOoHREEnFOURoIVEnSIXoEVEN",
      "nEIGHTnNINEhSIGN OLD TAMIL VIRAMAhLETTER OLD TAMIL SHORT E+eOhVOWEL SIGN OLD TAMIL SHORT E+iO",
      "hLETTER OLD TAMIL LLA"]),
    (0x1107F, ["aBRAHMI NUMBER JOINERaKAITHI SIGN CANDRABINDUmANUSVARAmVISARGAhLETTER ApAoIpIoUpUoE",
      "oAIoOoAUoKApHAoGApHAoNGAoCApHAoJApHAoNYAoTTAqHAoDDAqDHAqHAoRHAoNNAoTApHAoDApHAoNAoPApHAoBApHA",
      "oMAoYAoRAoLAoVAoSHApSApAoHAhVOWEL SIGN AAsItIsUtUsEsAIsOsAUhSIGN VIRAMAmNUKTA",
      "hABBREVIATION SIGNhENUMERATION SIGNhNUMBER SIGNhSECTION MARKhDOUBLE SECTION MARKiANDA",
      "iOUBLE DANDAhVOWEL SIGN VOCALIC R"]),
    (0x110CD, ["aKAITHI NUMBER SIGN ABOVE"]),
    (0x110D0, ["aSORA SOMPENG LETTER SAHuTAHuBAHuCAHuDAHuGAHuMAHuNGAHuLAHuNAHuVAHuPAHuYAHuRAHuHAH",
      "uKAHuJAHuNYAHuAHuEEHuIHuUHuOHuEHuMAE"]),
    (0x110F0, ["aSORA SOMPENG DIGIT ZEROtONEtTWOuHREEtFOURuIVEtSIXuEVENtEIGHTtNINE"]),
    (0x11100, ["aCHAKMA SIGN CANDRABINDUmANUSVARAmVISARGAhLETTER AAoIoUoEoKAApHAAoGAApHAAoNGAAoCAA",
      "pHAAoJAApHAAoNYAAoTTAAqHAAoDDAAqHAAoNNAAoTAApHAAoDAApHAAoNAAoPAApHAAoBAApHAAoMAAoYYAApAAoRAA",
      "oLAAoWAAoSAAoHAAhVOWEL SIGN AsItIsUtUsEsAIsOsAUsOIhO MARKhAU MARKhVIRAMAhMAAYYAA"]),
    (0x11136, ["aCHAKMA DIGIT ZEROnONEnTWOoHREEnFOURoIVEnSIXoEVENnEIGHTnNINEhSECTION MARKhDANDA",
      "iOUBLE DANDAhQUESTION MARKhLETTER LHAAhVOWEL SIGN AAsEIhLETTER VAA"]),
    (0x11150, ["aMAHAJANI LETTER AqIqUqEqOqKArHAqGArHAqCArHAqJArHAqNYAqTTAsHAqDDAsHAqNNAqTArHAqDArHA",
      "qNAqPArHAqBArHAqMAqRAqLAqVAqSAqHAqRRAjSIGN NUKTAjABBREVIATION SIGNjSECTION MARKjLIGATURE SHRI"]),
    (0x11180, ["aSHARADA SIGN CANDRABINDUnANUSVARAnVISARGAiLETTER AqApIqIpUqUpVOCALIC RyRxLyLpEpAIpO",
      "pAUpKAqHApGAqHApNGApCAqHApJAqHApNYApTTArHApDDArHApNNApTAqHApDAqHApNApPAqHApBAqHApMApYApRApLA",
      "qLApVApSHAqSAqApHAiVOWEL SIGN AAtIuItUuUtVOCALIC R+cR+bL+cLtEtAItOtAUiSIGN VIRAMAnAVAGRAHA",
      "nJIHVAMULIYAnUPADHMANIYAiOMiDANDAjOUBLE DANDAiABBREVIATION SIGNiSEPARATORjANDHI MARK",
      "jIGN NUKTAiVOWEL MODIFIER MARKiEXTRA SHORT VOWEL MARKiSUTRA MARKiVOWEL SIGN PRISHTHAMATRA E",
      "iSIGN INVERTED CANDRABINDUiDIGIT ZEROoONEoTWOpHREEoFOURpIVEoSIXpEVENoEIGHToNINEiEKAM",
      "iSIGN SIDDHAMiHEADSTROKEiCONTINUATION SIGNiSECTION MARK-1v2"]),
    (0x111E1, ["aSINHALA ARCHAIC DIGIT ONEwTWOxHREEwFOURxIVEwSIXxEVENwEIGHTwNINEqNUMBER TENyWENTY",
      "yHIRTYxFORTYyIFTYxSIXTYyEVENTYxEIGHTYxNINETYxONE HUNDRED+bTHOUSAND"]),
    (0x11200, ["aKHOJKI LETTER ApAoIoUoEoAIoOoAUoKApHAoGApGApHAoNGAoCApHAoJApJA"]),
    (0x11213, ["aKHOJKI LETTER NYAoTTAqHAoDDAqHAoNNAoTApHAoDApDDApHAoNAoPApHAoBApBApHAoMAoYAoRAoLA",
      "oVAoSAoHAoLLAhVOWEL SIGN AAsItIsUsEsAIsOsAUhSIGN ANUSVARAmVIRAMAmNUKTAmSHADDAhDANDA",
      "iOUBLE DANDAhWORD SEPARATORhSECTION MARKhDOUBLE SECTION MARKhABBREVIATION SIGNhSIGN SUKUN"]),
    (0x11280, ["aMULTANI LETTER ApIpUpEpKAqHApGA"]),
    (0x11288, ["aMULTANI LETTER GHA"]),
    (0x1128A, ["aMULTANI LETTER CAqHApJAqJA"]),
    (0x1128F, ["aMULTANI LETTER NYApTTArHApDDArDArHApNNApTAqHApDAqHApNApPAqHApBA"]),
    (0x1129F, ["aMULTANI LETTER BHApMApYApRApLApVApSApHApRRAqHAiSECTION MARK"]),
    (0x112B0, ["aKHUDAWADI LETTER AsArIsIrUsUrErAIrOrAUrKAsHArGAsGAsHArNGArCAsHArJAsJAsHArNYArTTAtHA",
      "rDDAtDArRRArDDHArNNArTAsHArDAsHArNArPAsHArBAsBAsHArMArYArRArLArVArSHAsArHAkSIGN ANUSVARA",
      "kVOWEL SIGN AAvIwIvUwUvEvAIvOvAUkSIGN NUKTApVIRAMA"]),
    (0x112F0, ["aKHUDAWADI DIGIT ZEROqONEqTWOrHREEqFOURrIVEqSIXrEVENqEIGHTqNINE"]),
    (0x11300, ["aGRANTHA SIGN COMBINING ANUSVARA ABOVEoANDRABINDUnANUSVARAnVISARGA"]),
    (0x11305, ["aGRANTHA LETTER AqApIqIpUqUpVOCALIC RxL"]),
    (0x1130F, ["aGRANTHA LETTER EEpAI"]),
    (0x11313, ["aGRANTHA LETTER OOpAUpKAqHApGAqHApNGApCAqHApJAqHApNYApTTArHApDDArHApNNApTAqHApDAqHA",
      "pNA"]),
    (0x1132A, ["aGRANTHA LETTER PAqHApBAqHApMApYApRA"]),
    (0x11332, ["aGRANTHA LETTER LAqLA"]),
    (0x11335, ["aGRANTHA LETTER VApSHAqSAqApHA"]),
    (0x1133B, ["aCOMBINING BINDU BELOWaGRANTHA SIGN NUKTAnAVAGRAHAiVOWEL SIGN AAtIuItUuUtVOCALIC R",
      "+cR"]),
    (0x11347, ["aGRANTHA VOWEL SIGN EEtAI"]),
    (0x1134B, ["aGRANTHA VOWEL SIGN OOtAUiSIGN VIRAMA"]),
    (0x11350, ["aGRANTHA OM"]),
    (0x11357, ["aGRANTHA AU LENGTH MARK"]),
    (0x1135D, ["aGRANTHA SIGN PLUTAiLETTER VEDIC ANUSVARAvDOUBLE ANUSVARAqOCALIC RRxLL",
      "iVOWEL SIGN VOCALIC L+cL"]),
    (0x11366, ["aCOMBINING GRANTHA DIGIT ZEROyONEyTWOzHREEyFOURzIVEySIX"]),
    (0x11370, ["aCOMBINING GRANTHA LETTER AzKAzNAzVIzPA"]),
    (0x11400, ["aNEWA LETTER AnAmInImUnUmVOCALIC RvRuLvLmEmAImOmAUmKAnHAmGAnHAmNGAoHAmCAnHAmJAnHA",
      "mNYAoHAmTTAoHAmDDAoHAmNNAmTAnHAmDAnHAmNAnHAmPAnHAmBAnHAmMAnHAmYAmRAnHAmLAnHAmWAmSHAnSAnAmHA",
      "fVOWEL SIGN AAqIrIqUrUqVOCALIC RzRyLzLqEqAIqOqAUfSIGN VIRAMAkCANDRABINDUkANUSVARAkVISARGA",
      "kNUKTAkAVAGRAHAkFINAL ANUSVARAfOMfSIDDHIfDANDAgOUBLE DANDAfCOMMAfGAP FILLERfABBREVIATION SIGN",
      "fDIGIT ZEROlONElTWOmHREElFOURmIVElSIXmEVENlEIGHTlNINEgOUBLE COMMAfPLACEHOLDER MARK"]),
    (0x1145D, ["aNEWA INSERTION SIGNfSANDHI MARKfLETTER VEDIC ANUSVARAfSIGN JIHVAMULIYAkUPADHMANIYA"]),
    (0x11480, ["aTIRHUTA ANJIiLETTER AqApIqIpUqUpVOCALIC RyRxLyLpEpAIpOpAUpKAqHApGAqHApNGApCAqHApJA",
      "qHApNYApTTArHApDDArHApNNApTAqHApDAqHApNApPAqHApBAqHApMApYApRApLApVApSHAqSAqApHAiVOWEL SIGN AA",
      "tIuItUuUtVOCALIC R+cR+bL+cLtEtSHORT EtAItOtSHORT OtAUiSIGN CANDRABINDUnANUSVARAnVISARGApRAMA",
      "nNUKTAnAVAGRAHAiGVANGiABBREVIATION SIGNiOM"]),
    (0x114D0, ["aTIRHUTA DIGIT ZEROoONEoTWOpHREEoFOURpIVEoSIXpEVENoEIGHToNINE"]),
    (0x11580, ["aSIDDHAM LETTER AqApIqIpUqUpVOCALIC RyRxLyLpEpAIpOpAUpKAqHApGAqHApNGApCAqHApJAqHA",
      "pNYApTTArHApDDArHApNNApTAqHApDAqHApNApPAqHApBAqHApMApYApRApLApVApSHAqSAqApHAiVOWEL SIGN AAtI",
      "uItUuUtVOCALIC R+cR"]),
    (0x115B8, ["aSIDDHAM VOWEL SIGN EtAItOtAUiSIGN CANDRABINDUnANUSVARAnVISARGApRAMAnNUKTAnSIDDHAM",
      "iDANDAjOUBLE DANDAiSEPARATOR DOTsBARiREPETITION MARK-1y2y3iEND OF TEXT MARK",
      "iSECTION MARK WITH TRIDENT AND U-SHAPED ORNAMENTS+mDOTTED CRESCENTS",
      "+aRAYS AND DOTTED CRESCENTS+qDOUBLE CRESCENTS+qTRIPLE CRESCENTSvDOUBLE RING+g WITH RAYS",
      "vWITH DOUBLE CRESCENTS+aTRIPLE CRESCENTS+aQUADRUPLE CRESCENTS+aSEPTUPLE CRESCENTS",
      "+aCIRCLES AND RAYS+mTWO ENCLOSURES+mFOUR ENCLOSURESiLETTER THREE-CIRCLE ALTERNATE I",
      "qWO-CIRCLE ALTERNATE I+lIpALTERNATE UiVOWEL SIGN ALTERNATE U+eU"]),
    (0x11600, ["aMODI LETTER AnAmInImUnUmVOCALIC RvRuLvLmEmAImOmAUmKAnHAmGAnHAmNGAmCAnHAmJAnHAmNYA",
      "mTTAoHAmDDAoHAmNNAmTAnHAmDAnHAmNAmPAnHAmBAnHAmMAmYAmRAmLAmVAmSHAnSAnAmHAmLLAfVOWEL SIGN AAqI",
      "rIqUrUqVOCALIC RzRyLzLqEqAIqOqAUfSIGN ANUSVARAkVISARGAmRAMAkARDHACANDRAfDANDAgOUBLE DANDA",
      "fABBREVIATION SIGNfSIGN HUVA"]),
    (0x11650, ["aMODI DIGIT ZEROlONElTWOmHREElFOURmIVElSIXmEVENlEIGHTlNINE"]),
    (0x11660, ["aMONGOLIAN BIRGA WITH ORNAMENTkROTATED BIRGAkDOUBLE BIRGA WITH ORNAMENT",
      "kTRIPLE BIRGA WITH ORNAMENTkBIRGA WITH DOUBLE ORNAMENTkROTATED BIRGA WITH ORNAMENT",
      "+dDOUBLE ORNAMENTkINVERTED BIRGAy WITH DOUBLE ORNAMENTkSWIRL BIRGAv WITH ORNAMENT",
      "+bDOUBLE ORNAMENTkTURNED SWIRL BIRGA WITH DOUBLE ORNAMENT"]),
    (0x11680, ["aTAKRI LETTER AoAnIoInUoUnEnAInOnAUnKAoHAnGAoHAnNGAnCAoHAnJAoHAnNYAnTTApHAnDDApHA",
      "nNNAnTAoHAnDAoHAnNAnPAoHAnBAoHAnMAnYAnRAnLAnVAnSHAoAnHAnRRAgSIGN ANUSVARAlVISARGA",
      "gVOWEL SIGN AArIsIrUsUrErAIrOrAUgSIGN VIRAMAlNUKTAgLETTER ARCHAIC KHAgABBREVIATION SIGN"]),
    (0x116C0, ["aTAKRI DIGIT ZEROmONEmTWOnHREEmFOURnIVEmSIXnEVENmEIGHTmNINE"]),
    (0x11700, ["aAHOM LETTER KAnHAmNGAnAmTAmALTERNATE TAmPAnHAmBAmMAmJAmCHAmTHAmRAmLAmSAmNYAmHAmAmDA",
      "nHAmGAmALTERNATE GAmGHAmBHAmJHAmALTERNATE BA"]),
    (0x1171D, ["aAHOM CONSONANT SIGN MEDIAL LA+bRA+bLIGATING RAfVOWEL SIGN ArAqIrIqUrUqEqAWqOqAIrM",
      "fSIGN KILLER"]),
    (0x11730, ["aAHOM DIGIT ZEROlONElTWOmHREElFOURmIVElSIXmEVENlEIGHTlNINEfNUMBER TENnWENTY",
      "fSIGN SMALL SECTIONlECTIONkRULAIgYMBOL VIfLETTER CAmTTAoHAmDDAoHAmNNAmLLA"]),
    (0x11800, ["aDOGRA LETTER AoAnIoInUoUnEnAInOnAUnKAoHAnGAoHAnNGAnCAoHAnJAoHAnNYAnTTApHAnDDApHA",
      "nNNAnTAoHAnDAoHAnNAnPAoHAnBAoHAnMAnYAnRAnLAnVAnSHAoSAoAnHAnRRAgVOWEL SIGN AArIsIrUsU",
      "rVOCALIC R+aRrErAIrOrAUgSIGN ANUSVARAlVISARGAnRAMAlNUKTAgABBREVIATION SIGN"]),
    (0x118A0, ["aWARANG CITI CAPITAL LETTER NGAA+bA+bWI+bYU+cA+cO+bII+bUU+bE+bO+bANG+bGA+bKO+bENY",
      "+bYUJ+bUC+bENN+bODD+bTTE+bNUNG+bDA+bAT+cM+bBU+bPU+bHIYO+cOLO+dRR+cAR+bSSUU+cII+bVIYO",
      "mSMALL LETTER NGAAzAzWIzYU+aA+aOzIIzUUzEzOzANGzGAzKOzENYzYUJzUCzENNzODDzTTEzNUNGzDAzAT+aMzBU",
      "zPUzHIYO+aOLO+bRR+aARzSSUU+aIIzVIYOmDIGIT ZEROsONEsTWOtHREEsFOURtIVEsSIXtEVENsEIGHTsNINE",
      "mNUMBER TENuWENTYuHIRTYtFORTYuIFTYtSIXTYuEVENTYtEIGHTYtNINETY"]),
    (0x118FF, ["aWARANG CITI OMaDIVES AKURU LETTER AuAtIuItUuUtE"]),
    (0x11909, ["aDIVES AKURU LETTER O"]),
    (0x1190C, ["aDIVES AKURU LETTER KAuHAtGAuHAtNGAtCAuHAtJA"]),
    (0x11915, ["aDIVES AKURU LETTER NYAtTTA"]),
    (0x11918, ["aDIVES AKURU LETTER DDAvHAtNNAtTAuHAtDAuHAtNAtPAuHAtBAuHAtMAtYAuYAtRAtLAtVAtSHAuSAuA",
      "tHAtLLAtZAmVOWEL SIGN AAxIyIxUyUxE"]),
    (0x11937, ["aDIVES AKURU VOWEL SIGN AIxO"]),
    (0x1193B, ["aDIVES AKURU SIGN ANUSVARArCANDRABINDUrHALANTAmVIRAMAmPREFIXED NASAL SIGNmMEDIAL YA",
      "mINITIAL RAmMEDIAL RAmSIGN NUKTAmDOUBLE DANDAmGAP FILLERmEND OF TEXT MARK"]),
    (0x11950, ["aDIVES AKURU DIGIT ZEROsONEsTWOtHREEsFOURtIVEsSIXtEVENsEIGHTsNINE"]),
    (0x119A0, ["aNANDINAGARI LETTER AuAtIuItUuUtVOCALIC R+cR"]),
    (0x119AA, ["aNANDINAGARI LETTER EtAItOtAUtKAuHAtGAuHAtNGAtCAuHAtJAuHAtNYAtTTAvHAtDDAvHAtNNAtTA",
      "uHAtDAuHAtNAtPAuHAtBAuHAtMAtYAtRAtLAtVAtSHAuSAuAtHAtLLAtRRAmVOWEL SIGN AAxIyIxUyUxVOCALIC R",
      "+gR"]),
    (0x119DA, ["aNANDINAGARI VOWEL SIGN ExAIxOxAUmSIGN ANUSVARArVISARGAtRAMArAVAGRAHArSIDDHAM",
      "mHEADSTROKEmVOWEL SIGN PRISHTHAMATRA E"]),
    (0x11A00, ["aZANABAZAR SQUARE LETTER ArVOWEL SIGN I+cUE+d+cE+cOE+d+cAI+dU+cREVERSED I",
      "xLENGTH MARKrLETTER KAzHAyGAzHAyNGAyCAzHAyJAyNYAyTTA+aHAyDDA+aHAyNNAyTAzHAyDAzHAyNAyPAzHAyBA",
      "zHAyMAyTSA+aHAyDZA+aHAyZHAzAy-AyYAyRAyLAyVAySHAzSAzAyHAyKSSArFINAL CONSONANT MARKrSIGN VIRAMA",
      "wCANDRABINDU+h WITH ORNAMENT+c WITH ORNAMENTwANUSVARAwVISARGArCLUSTER-INITIAL LETTER RA",
      "zFINAL LETTER YA+mRA+mLA+mVArINITIAL HEAD MARKrCLOSING HEAD MARKrMARK TSHEGwSHADwDOUBLE SHAD",
      "wLONG TSHEGrINITIAL DOUBLE-LINED HEAD MARKrCLOSING DOUBLE-LINED HEAD MARKrSUBJOINER"]),
    (0x11A50, ["aSOYOMBO LETTER AiVOWEL SIGN ItUEutEtOuEtAIuUtVOCALIC R+bLoLENGTH MARKiLETTER KAqHA",
      "pGAqHApNGApCAqHApJAqHApNYApTTArHApDDArHApNNApTAqHApDAqHApNApPAqHApBAqHApMApTSArHApDZApZHAqA",
      "p-ApYApRApLApVApSHAqSAqApHApKSSAiSIGN JIHVAMULIYAnUPADHMANIYAiCLUSTER-INITIAL LETTER RA+fLA",
      "+fSHA+gAiFINAL CONSONANT SIGN G+dK+dNG+dD+dN+dB+dM+dR+dL+dSH+e+d-AiSIGN ANUSVARAnVISARGA",
      "iGEMINATION MARKiSUBJOINERiMARK TSHEGnSHADnDOUBLE SHADnPLUTA",
      "iHEAD MARK WITH MOON AND SUN AND TRIPLE FLAME+oFLAME+jiTERMINAL MARK-1w2"]),
    (0x11AB0, ["aCANADIAN SYLLABICS NATTILIK HI+eI+dO+eO+dA+eA+cSHRI+gI+fO+gO+fA+gAtSPEvIvOvA",
      "aPAU CIN HAU LETTER PAtKAtLAtMAtDAtZAtVAtNGAtHAtGAtKHAtSAtBAtCAtTAuHAtNAtPHAtRAtFAtCHAtAtEtI",
      "tOtUuAtIAtFINAL PzKzTzMzNzLzWzNGzYmRISING TONE LONGxmSANDHI GLOTTAL STOP",
      "mRISING TONE LONG FINALyFINALmSANDHI GLOTTAL STOP FINALtTONE LONGxx LONG FINALyFINAL",
      "mMID-LEVEL TONEmGLOTTAL STOP VARIANTmMID-LEVEL TONE LONG FINAL+bFINALmLOW-FALLING TONE LONG+c",
      "mGLOTTAL STOPmLOW-FALLING TONE LONG FINAL+dFINALmGLOTTAL STOP FINAL"]),
    (0x11C00, ["aBHAIKSUKI LETTER AsArIsIrUsUrVOCALIC R+aRzL"]),
    (0x11C0A, ["aBHAIKSUKI LETTER ErAIrOrAUrKAsHArGAsHArNGArCAsHArJAsHArNYArTTAtHArDDAtHArNNArTAsHA",
      "rDAsHArNArPAsHArBAsHArMArYArRArLArVArSHAsSAsArHAkVOWEL SIGN AAvIwIvUwUvVOCALIC R+eR+dL"]),
    (0x11C38, ["aBHAIKSUKI VOWEL SIGN EvAIvOvAUkSIGN CANDRABINDUpANUSVARApVISARGArRAMApAVAGRAHA",
      "kDANDAlOUBLE DANDAkWORD SEPARATORkGAP FILLER-1v2"]),
    (0x11C50, ["aBHAIKSUKI DIGIT ZEROqONEqTWOrHREEqFOURrIVEqSIXrEVENqEIGHTqNINEkNUMBER ONErTWOsHREE",
      "rFOURsIVErSIXsEVENrEIGHTrNINErTENsWENTYsHIRTYrFORTYsIFTYrSIXTYsEVENTYrEIGHTYrNINETY",
      "kHUNDREDS UNIT MARK"]),
    (0x11C70, ["aMARCHEN HEAD MARKiMARK SHADiLETTER KAqHApGApNGApCAqHApJApNYApTAqHApDApNApPAqHApBA",
      "pMApTSArHApDZApWApZHAqAp-ApYApRApLApSHAqApHApA"]),
    (0x11C92, ["aMARCHEN SUBJOINED LETTER KA+aHAzGAzNGAzCA+aHAzJAzNYAzTA+aHAzDAzNAzPA+aHAzBAzMAzTSA",
      "+bHAzDZAzWAzZHA+aA"]),
    (0x11CA9, ["aMARCHEN SUBJOINED LETTER YAzRAzLAzSHA+aAzHAzAiVOWEL SIGN AAtItUtEtOiSIGN ANUSVARA",
      "nCANDRABINDU"]),
    (0x11D00, ["aMASARAM GONDI LETTER AwAvIwIvUwUvE"]),
    (0x11D08, ["aMASARAM GONDI LETTER AIvO"]),
    (0x11D0B, ["aMASARAM GONDI LETTER AUvKAwHAvGAwHAvNGAvCAwHAvJAwHAvNYAvTTAxHAvDDAxHAvNNAvTAwHAvDA",
      "wHAvNAvPAwHAvBAwHAvMAvYAvRAvLAvVAvSHAwSAwAvHAvLLAvKSSAvJNYAvTRAoVOWEL SIGN AAzI+aIzU+aU",
      "zVOCALIC R"]),
    (0x11D3A, ["aMASARAM GONDI VOWEL SIGN E"]),
    (0x11D3C, ["aMASARAM GONDI VOWEL SIGN AIzO"]),
    (0x11D3F, ["aMASARAM GONDI VOWEL SIGN AUoSIGN ANUSVARAtVISARGAtNUKTAtCANDRAtHALANTAoVIRAMAoREPHA",
      "pA-KARA"]),
    (0x11D50, ["aMASARAM GONDI DIGIT ZEROuONEuTWOvHREEuFOURvIVEuSIXvEVENuEIGHTuNINE"]),
    (0x11D60, ["aGUNJALA GONDI LETTER AwAvIwIvUwU"]),
    (0x11D67, ["aGUNJALA GONDI LETTER EEvAI"]),
    (0x11D6A, ["aGUNJALA GONDI LETTER OOvAUvYAvVAvBAwHAvMAvKAwHAvTAwHAvLAvGAwHAvDAwHAvNAvCAwHAvTTA",
      "xHAvLLAvJAwHAvDDAxHAvNGAvPAwHAvHAvRAvSAoVOWEL SIGN AAzI+aIzU+aU"]),
    (0x11D90, ["aGUNJALA GONDI VOWEL SIGN EEzAI"]),
    (0x11D93, ["aGUNJALA GONDI VOWEL SIGN OOzAUoSIGN ANUSVARAtVISARGAoVIRAMAoOM"]),
    (0x11DA0, ["aGUNJALA GONDI DIGIT ZEROuONEuTWOvHREEuFOURvIVEuSIXvEVENuEIGHTuNINE"]),
    (0x11EE0, ["aMAKASAR LETTER KApGApNGApPApBApMApTApDApNApCApJApNYApYApRApLApVApSApAiANGKA",
      "iVOWEL SIGN ItUtEtOiPASSIMBANGiEND OF SECTION"]),
    (0x11FB0, ["aLISU LETTER YHA"]),
    (0x11FC0, ["aTAMIL FRACTION ONE THREE-HUNDRED-AND-TWENTIETHtONE-HUNDRED-AND-SIXTIETHtEIGHTIETH",
      "tSIXTY-FOURTHtFORTIETHtTHIRTY-SECONDpTHREE EIGHTIETHSvSIXTY-FOURTHSpONE TWENTIETHtSIXTEENTH-1",
      "+d2tTENTHtEIGHTHpTHREE TWENTIETHSvSIXTEENTHSpONE FIFTHtQUARTERtHALF-1y2pTHREE QUARTERS",
      "pDOWNSCALING FACTOR KIIZHgSIGN NELlCEVITUlAAZHAAKKUlUZHAKKUlMUUVUZHAKKUlKURUNIlPATHAKKU",
      "lMUKKURUNIlKAACUlPANAMmONlVARAAKANlPAARAMlKUZHIlVELIgWET CULTIVATION SIGN",
      "gDRY CULTIVATION SIGNgLAND SIGNgSALT PAN SIGNgTRADITIONAL CREDIT SIGNsNUMBER SIGN",
      "gCURRENT SIGNgAND ODD SIGNgSPENT SIGNgTOTAL SIGNgIN POSSESSION SIGNgSTARTING FROM SIGN",
      "hIGN MUTHALIYAlVAKAIYARAA"]),
    (0x11FFF, ["aTAMIL PUNCTUATION END OF TEXTaCUNEIFORM SIGN Aq TIMES AxBADxGAN2 TENUxHAxIGI",
      "xLAGAR GUNUxMUSHxSAGq2qBr TIMES ASH2yDUN3 GUNUyGAL+aN2 TENUyHAyIGI GUNUzMINyLAGABySHESH",
      "yU PLUS U PLUS UsGUNUr2s TIMES BALAGzGAN2 TENUzME PLUS ENzSHA3zTAK4qDqKr TIMES ERIN2",
      "ySHITA PLUS GISHqLr TIMES ALyDIM2yGISHyHAyKAD3zIySHEyUSHrANrEPHqMARt TIMES SHEqNr OVER AN",
      "sTHREE TIMESsPLUS NAGA OPPOSING AN PLUS NAGA+cSQUAREDrSHEqPINqRADt TIMES KURrKABqSAL2rH",
      "s ZIDA TENUtKABA TENUtOVER ASH TUG2 OVER TUG2 TUG2 OVER TUG2 PAP+cOVER ASH",
      "+k CROSSING ASH OVER ASH OVER ASHs2sGABpBArDrG3rHAR2rLs OVER BALsAGrRsA2qIr TIMES AyGAR",
      "yIGI GUNUqUr OVER BU AB+aUNsCROSSING BUrLUGu OVER BULUGrRs2pDArGs KISIM5 TIMES A PLUS MASH",
      "+hMAR+gBALAG+hI+gGA+i PLUS MASH+hI+iR2+hUD+gHA+gIR+i PLUS LU+gKAK+gLA+hU+i PLUS MASH2+iM+gNE",
      "+gPAP PLUS PAP+gSI+gTAK4+gU2 PLUS GIR2+hSHrMrRsA3t4qIrBrMs TIMES SHEs2rNs KASKAL U GUNU DISH",
      "rSHqUr OVER DUsGUNUsSHESHIGrBs TIMES ESH2s2rGsUDrHrNs3t GUNUy GUNUs4rR2pEq TIMES PAP",
      "rOVER E NUN OVER NUNq2r TIMES A PLUS HA PLUS DAyGARyMIySALzHEyUqDINqGIRqLqNr TIMES GAN2",
      "+c TENUyMEsCROSSING ENsOPPOSING ENsSQUAREDqRENrIN2qSH2qZENt TIMES A+b PLUS LAL+k TIMES LAL+bN",
      "+aBAD+aDUN3 GUNU+j GUNU+aHA+c GUNU+aIGI GUNU+aKASKAL+g SQUARED+bU3+aLA+cL TIMES LAL+bI+bU+aU2",
      "+bDpGAr GUNUr2s TIMES A PLUS DA PLUS HA+gHA+gIGI+aB2 TENU PLUS TAB+aN+aSH+c2 PLUS GALzBAD",
      "+bR PLUS RA+aUR+c PLUS RAzDA+aI+bM TIMES SHE+aUBzEL+b PLUS LA+aN+b TIMES GAN2 TENUzGAN2 TENU",
      "+bR+aI+b4+c PLUS A+bR2 PLUS SUzHA PLUS LU PLUS ESH2+bL+c PLUS LA+aI PLUS LI+aUB2zIGI GUNU",
      "+aSH PLUS HU PLUS ASHzKAK+bSKAL+aID+c PLUS LAL+aU3 PLUS ANzLAzME PLUS EN+aIzNUN+c OVER NUNzPA",
      "zSAL+bR+aHE+c PLUS TUR+bID+aUMzTAK4zU+aD+b PLUS DUtOVER GA2rBAt CROSSING GABArD",
      "s OVER GAD GAR OVER GARrLs GAD OVER GAD GAR OVER GARsAMrMrNs2t TENUuOVER GAN2uCROSSING GAN2rR",
      "s3rSHANqESHTINw TIMES KURqIr TIMES EyUsCROSSING GIr4s OVER GI4tCROSSING GI4rDIMrR2t GUNUs3",
      "t TIMES A PLUS IGI+aGAN2 TENU+aIGI+aLU PLUS IGI+aPArSALsHt CROSSING GISHuTIMES BAD+aTAK4vENU",
      "qUr CROSSING GUr2s TIMES KAK+c TIMES IGI GUNUzNUNzSAL PLUS TUG2tGUNUrDs TIMES A PLUS KURzKUR",
      "tOVER GUD LUGALrLrMs TIMES SHErRs7sUNtSHpHAr TENUsGUNUrLqIr TIMES ASH+b2yBADyDISHyGADyKINyNUN",
      "ySHEyUqUrB2t TIMES AN+aHAL+aKASKAL+aLISH+aUDrL2pIq AqBqDIMt OVER IDIM BUR+eSQUAREDqGrIs DIB",
      "tRItOVER IGI SHIR OVER SHIR UD OVER UDtGUNUqLr TIMES GAN2 TENUr2qMr TIMES TAK4sCROSSING IM",
      "sOPPOSING IMsSQUAREDrINqNqRqSHpKAr TIMES AzD+a PLUS KU3zSH2yBAD+aLAG+aRzIyERIN2zSH2yGA+aL",
      "+aN2 TENU+aR+b PLUS SHA3 PLUS AzI+aR2+aSH PLUS SAR+dCROSSING GISHzU+aR7yIGIzMyKAKzI+aDyLIzU",
      "yME+a PLUS DU+gGI+gTEzI+a PLUS NUNUZyNEzUNyPIyRUySA+aRzHA+aE+aID+aUzIGzUHURyTARyUz2zD",
      "zMUM TIMES PAzSHyZIr2s CROSSING KA2rBrD2s3s4s5t OVER KAD5rKs TIMES IGI GUNUrLs TIMES BAD",
      "tCROSSING KALrM2s4rSKALv LAGAB TIMES U OVER LAGAB TIMES U",
      "wOVER KASKAL LAGAB TIMES U OVER LAGAB TIMES UqESH2qIr TIMES BADyUzDrDrNrSALsHsIM5",
      "v OVER KISIM5qUr OVER HI TIMES ASH2 KU OVER HI TIMES ASH2r3r4s VARIANT FORMr7rLs GUNUrNrR",
      "s OPPOSING KURrSHU2qWU318pLArGABu TIMES A+c PLUS DA PLUS HA+iGAR+iLAL+cL+cN+cSH ZIDA TENU",
      "+bBAD+cI+bDAR+bEN+bGA+dR+cUD+e PLUS GUD+bHA+dL+cI TIMES NUN+bIGI GUNU+cM+d PLUS HA+jLU+bKI+dN",
      "+cU3+dL+e PLUS HI PLUS A+bLAGAB+cISH+cU+dL+bME+d PLUS EN+cUSH+bNE+bSHE PLUS SUM",
      "+dITA PLUS GISH PLUS ERIN2+rTENU+dU2+f PLUS SHU2+cUM+bTAG+dK4+cE PLUS A PLUS SU PLUS NA+bU",
      "+c PLUS A+iU PLUS U+c2 PLUS ASH+cD+cSHvSQUAREDtRu TIMES SHE+e PLUS SUMvGUNU",
      "z OVER LAGAR GUNU SHErHSHUrLs TIMES LALrMs TIMES KUR+c PLUS RUqIrLrMMU2rSHqUr TIMES BADr2",
      "s TIMES ALzBADzESH2+d TENUzGAN2 TENUzHI TIMES BADzIMzKAD2+c3+d PLUS ASH+aIzLA PLUS ASH+bGAB",
      "zME PLUS ENzNE+aUzSI PLUS ASH+bK2 PLUS BUzTUG2uENUtCROSSING LU2tOPPOSING LU2tSQUAREDuHESHIGr3",
      "rGALu OVER LUGALwPPOSING LUGALvSHESHIGrHrLrMs OVER LUM+b GAR OVER GARpMAr TIMES TAK4sGUNUr2rH",
      "rRrSHt2qErSqIrNqUr OVER MUrGs GUNUrNSUBrRGU2rSHt TIMES A+aKUR+aZAuOVER MUSH+d TIMES A PLUS NA",
      "uCROSSING MUSHt3u TIMES A+c PLUS DI+bDIvGUNUpNAr2rGAt INVERTEDuTIMES SHU TENUuOPPOSING NAGAtR",
      "rM NUTILLUss2qEr TIMES AyUDsSHESHIGqIr TIMES Er2rMs TIMES GAN2 TENU+bR PLUS GAN2 TENUrNDA2",
      "v TIMES AN+dSH+f PLUS ASH+cGUD+cME PLUS GAN2 TENU+cNE+dUN+cSHE+f PLUS A AN+mSH+o PLUS ASH",
      "+cU2 PLUS ASH+dSHrSAGqUr11rNs LAGAR TIMES GAR+fMASH+fSAL+i OVER NUN LAGAR TIMES SAL+fUSHtTENU",
      "tOVER NUNtCROSSING NUN+f LAGAR OVER LAGARsUZu AB2 TIMES ASHGAB+fBI+fDUG+fGUD+fIGI GUNU+fKAD3",
      "+fLA+fNE+fSILA3+fU2vKISIM5 TIMES BI+k UpPArDrNrPqESH2qIr TIMES AzByBIzUyEyIzByUz2sCROSSING PI",
      "rRIGu TIMES KAL+bUD+bZAvOPPOSING PIRIGpRArBqIqUpSArG NUTILLUss TIMES AzDU+bBzHAzKAK+aURzLUM",
      "zMIzNUNzSAL+aHIDzTABzU2+aB+aM+aR+aSHtOVER SAGtGUNUrLs LAGAB TIMES ASH2rNGA2rRqHAs3t TIMES A",
      "+aBAD+aGISH+aNE+aSHU2+aTUR+aU+b PLUS As6sB6sR2rEs HUtOVER SHE GAD OVER GAD GAR OVER GAR",
      "+cTAB OVER TAB GAR OVER GARsG9sNsSHu2uLAMrIDt TIMES A+aIMsMt TIMES A+aBAL+bULUG+aDIN+aGAR",
      "+aIGI+d GUNU+aKUSHU2+aLUL+aMUG+aSALsNIGsRt TENUuOVER SHIR BUR OVER BURsTArU",
      "s OVER INVERTED SHUs2sBURqIr GUNUrGs4t OVER SIG4 SHU2rK2rLA3qUr OVER SUrDs2rHURrMsASHrRs9pTA",
      "r ASTERISKsTIMES HIyMIsGUNUrBs OVER TAB NI OVER NI DISH OVER DISHtSQUAREDrGs TIMES BIzGUDzSHE",
      "+bUzTUG2zUDrK4rRqEr GUNUqIr TENUrLrRs TIMES TAK4tOVER TIR+b GAD OVER GAD GAR OVER GARqUrG2rK",
      "rMrRs OVER TUR ZA OVER ZApUq GUDrU UrOVER U PA OVER PA GAR OVER GARySUR OVER SUR",
      "yU REVERSED OVER U REVERSEDq2qBqDr KUSHU2sTIMES BADyMIyU PLUS U PLUS U+n GUNUsGUNUsSHESHIG",
      "z TIMES BADrUGqMr TIMES LAGAByME PLUS DAySHA3yUrBINrUMt TIMES KASKAL+aPAqNr GUNUqR",
      "r CROSSING URsSHESHIGr2s TIMES A PLUS HA+gNA+aLzHAzNUNzU2+b PLUS ASH+hBIr4rIs3rUs TIMES A",
      "+aSHGABzBARzDUNzGA+bL+bN2 TENU+bR+aUzHAzIGI+aM+aSHzKIzLUMzMINzPAzSHE+aIG4zTUzU PLUS GUD+aD",
      "+aRUDAsDAu TIMES UqSHs TIMES AzKU+bRzTAK4sXs2sUMXqTUKIqZ3s TIMES KASKALrUpZAr TENU",
      "sSQUARED TIMES KURrGrMXqE2qIr OVER ZIr3rBs KABA TENUrGrZ2qUr5s TIMES ArBURrMpKAP ELAMITE",
      "pAB TIMES NUNr2 TIMES AqMAR TIMES KUGpDAG KISIM5 TIMES U2 PLUS MASHs3qISH PLUS SHU",
      "qUB TIMES SHEpEZEN TIMES GUD+aSHEpGA2 TIMES AN PLUS KAK PLUS A+aSH2qE22qIGpHUSH",
      "pKA TIMES ANSHEzSH3yGISHzUDyHI TIMES ASH2yLUMyPAySHULyTUyUR2pLAGAB TIMES GI",
      "qU2 SHESHIG TIMES BADtTIMES ESH2 PLUS LALzSHUpMESHqUSH3 TIMES ZApNA4qINs9sDA2 TIMES BAL+cGI",
      "qU11 ROTATED NINETY DEGREESpPESH2 ASTERISKqIR2pSAG TIMES IGI GUNUpTI2pUM TIMES MEq U"]),
    (0x12400, ["aCUNEIFORM NUMERIC SIGN TWO ASHyHREE ASHxFOUR ASHyIVE ASHxSIX ASHyEVEN ASHxEIGHT ASH",
      "xNINE ASHxTHREE DISHxFOUR DISHyIVE DISHxSIX DISHyEVEN DISHxEIGHT DISHxNINE DISHxFOUR UyIVE U",
      "xSIX UyEVEN UxEIGHT UxNINE UxONE GESH2xTWO GESH2yHREE GESH2xFOUR GESH2yIVE GESH2xSIX GESH2",
      "yEVEN GESH2xEIGHT GESH2xNINE GESH2xONE GESHUxTWO GESHUyHREE GESHUxFOUR GESHUyIVE GESHU",
      "xTWO SHAR2yHREE SHAR2+i VARIANT FORMxFOUR SHAR2yIVE SHAR2xSIX SHAR2yEVEN SHAR2xEIGHT SHAR2",
      "xNINE SHAR2xONE SHARUxTWO SHARUyHREE SHARU+i VARIANT FORMxFOUR SHARUyIVE SHARU",
      "xSHAR2 TIMES GAL PLUS DISH+sMINxONE BURUxTWO BURUyHREE BURU+h VARIANT FORMxFOUR BURUyIVE BURU",
      "xTHREE VARIANT FORM ESH16+t21xFOUR VARIANT FORM LIMMU+u4+u A+vBxSIX VARIANT FORM ASH9",
      "yEVEN VARIANT FORM IMIN3+u A+vBxEIGHT VARIANT FORM USSU+u3xNINE VARIANT FORM ILIMMU+v3+v4+v A",
      "xTWO ASH TENUyHREE ASH TENUxFOUR ASH TENUyIVE ASH TENUxSIX ASH TENUxONE BAN2xTWO BAN2",
      "yHREE BAN2xFOUR BAN2+g VARIANT FORMyIVE BAN2+g VARIANT FORMxNIGIDAMIN+dESHxONE ESHE3",
      "xTWO ESHE3xONE THIRD DISHxTWO THIRDS DISHxFIVE SIXTHS DISHxONE THIRD VARIANT FORM A",
      "xTWO THIRDS VARIANT FORM AxONE EIGHTH ASH+bQUARTER ASHyLD ASSYRIAN ONE SIXTH+oQUARTER",
      "yNE QUARTER GUR+bHALF GURxELAMITE ONE THIRD+fTWO THIRDS+fFORTY+gIFTYxFOUR U VARIANT FORM",
      "yIVE U VARIANT FORMxSIX U VARIANT FORMyEVEN U VARIANT FORMxEIGHT U VARIANT FORM",
      "xNINE U VARIANT FORM"]),
    (0x12470, ["aCUNEIFORM PUNCTUATION SIGN OLD ASSYRIAN WORD DIVIDER+bVERTICAL COLON",
      "+bDIAGONAL COLON+kTRICOLON+kQUADCOLON"]),
    (0x12480, ["aCUNEIFORM SIGN AB TIMES NUN TENUySHU2qD TIMES ESH2pBAD TIMES DISH TENU",
      "rHAR2 TIMES AB2+cNI+cZAqU OVER BU TIMES NA2pDA TIMES TAK4rG TIMES KURqIM TIMES IGIzU U U",
      "s2 TIMES UDqUG TIMES ANSHE+aSH+c AT LEFTzDIN+aUNzERIN2zGA+aI+bR2 GUNU+bSHzHA+aIzIGI GUNU",
      "zKASKAL+aUR+bSHU2+f PLUS KASKALzLAK-020+bM+c TIMES KUR+aUH PLUS GISHzMASH+aES+aIzNIzPIzSHE",
      "+aI GUNUpE2 TIMES KURyPAPqRIN2 XqSH2 CROSSING ESH2qZEN SHESHIG TIMES ASH+iHI+iIGI GUNU+iLA+kL",
      "+iME+kS+iSUuTIMES SUpGA2 TIMES BAHAR2zDIM GUNU+aUG TIMES IGI GUNU+jKASKALzERENzGA+bR PLUS DI",
      "+iNEzHA PLUS AzKUSHU2 PLUS KASKALzLAM+c TIMES KUR+aUHzMUSHzNE+b PLUS E2+hGIzSHIMzZIZ2",
      "rBA ROTATED NINETY DEGREESqESHTIN TIMES UqISH TIMES GISH CROSSING GISHqU2 TIMES IGI GUNU",
      "rD PLUS GISH TIMES TAK4pHA TENU GUNUqI TIMES ASH OVER HI TIMES ASHpKA TIMES BUyKAyU U UzR",
      "pLAGAB TIMES ZU OVER ZUrK-003u21v5u30u50v1u62u79 OVER LAK-079 GUNUu80v1 OVER LAK-081u92t130",
      "u42t210v9u20v5v8u38u65v6t343v7v8u83v4u90t441v9w TIMES GU+dIGI+dPAP PLUS LU3+mPAP PLUS LU3",
      "+dU2 PLUS BAu50v7u70u83u90v2v3v5t550t608u17w TIMES ASH+dBAD+dDUN3 GUNU GUNU+dKU3+dLA+dTAR+eE",
      "+dU2+eD+eRUDAu36u48w TIMES DUB+dGA+dIGI+g GUNU+dNI+dPAP PLUS PAP PLUS LU3+dSHESH PLUS KI+dUD",
      "+eRUDAt724u49qU2 GUNU TIMES ASHtTIMES DISHzHALzPAP+c PLUS PAP PLUS LU3zTAK4pMI PLUS ZA7",
      "qUSH OVER MUSH TIMES GA+kKAKpNINDA2 TIMES DIM GUNU+cGISH+dUL+cHI+cKESH2+cLAK-050+cMASH",
      "+cPAP PLUS PAP+cU+d PLUS U+dRUDApSAG GUNU TIMES HAtTIMES ENzSHE AT LEFTzTAK4qHA6 TENU",
      "rE OVER SHEtPLUS HUB2yNAM2ySARrU2 PLUS DUG TIMES NIzE2 TIMES ANqI TIMES TAK4pTAK4 PLUS SAG",
      "qUM TIMES GAN2 TENUzTHREE DISHpUR2 INVERTEDtTIMES UDrU TIMES DARA3zLAK-668+aU3pZA7",
      "qU OVER ZU PLUS SARr5 TIMES THREE DISH TENU"]),
    (0x12F90, ["aCYPRO-MINOAN SIGN CM001w2w4w5w6w7w8w9v10w1w2xBw3w5w7w9v21w3w4w5w6w7w8w9v30w3w4w5w6",
      "w7w8w9v40w1w4w6w7w9v50w1w2w3w4w5w6w8w9v60w1w2w3w4w6w7w8w9v70w1w2w3w4w5xBw6w8w9v80w1w2w3w4w5w6",
      "w7w8w9v90w1w2w4w5w6w7w8w9u100w1w2w3w4w5w7w8w9v10w2w4u301w2"]),
    (0x13000, ["aEGYPTIAN HIEROGLYPH A001x2x3x4x5yAx6yAyBx7x8x9w10x1x2x3x4yAx5x6x7yAx8x9w20x1x2x3x4",
      "x5x6x7x8x9w30x1x2yAx3x4x5x6x7x8x9w40yAx1x2yAx3yAx4x5yAx6x7x8x9w50x1x2x3x4x5x6x7x8x9w60x1x2x3",
      "x4x5x6x7x8x9w70uB001x2x3x4x5yAx6x7x8x9uC001x2yAyByCx3x4x5x6x7x8x9w10yAx1x2x3x4x5x6x7x8x9w20x1",
      "x2x3x4uD001x2x3x4x5x6x7x8yAx9w10x1x2x3x4x5x6x7x8x9w20x1x2x3x4x5x6x7yAx8x9w30x1yAx2x3x4yAx5x6",
      "x7x8x9w40x1x2x3x4x5x6yAx7x8yAx9w50yAyByCyDyEyFyGyHyIx1x2yAx3x4yAx5x6x7x8x9w60x1x2x3x4x5x6x7yA",
      "yByCyDyEyFyGyHuE001x2x3x4x5x6x7x8yAx9yAw10x1x2x3x4x5x6yAx7yAx8x9w20yAx1x2x3x4x5x6x7x8yAx9w30",
      "x1x2x3x4yAx6x7x8uF001yAx2x3x4x5x6x7x8x9w10x1x2x3yAx4x5x6x7x8x9w20x1yAx2x3x4x5x6x7x8x9w30x1yA",
      "x2x3x4x5x6x7yAx8yAx9w40x1x2x3x4x5yAx6yAx7yAx8x9w50x1yAyByCx2x3uG001x2x3x4x5x6yAx7yAyBx8x9w10",
      "x1yAx2x3x4x5x6x7x8x9w20yAx1x2x3x4x5x6yAx7x8x9w30x1x2x3x4x5x6yAx7yAx8x9w40x1x2x3yAx4x5yAx6x7x8",
      "x9w50x1x2x3x4uH001x2x3x4x5x6yAx7x8uI001x2x3x4x5yAx6x7x8x9yAw10yAx1yAx2x3x4x5uK001x2x3x4x5x6x7",
      "x8uL001x2yAx3x4x5x6yAx7x8uM001yAyBx2x3yAx4x5x6x7x8x9w10yAx1x2yAyByCyDyEyFyGyHx3x4x5yAx6yAx7yA",
      "x8x9w20x1x2yAx3x4yAx5x6x7x8yAx9w30x1yAx2x3yAyBx4x5x6x7x8x9w40yAx1x2x3x4uN001x2x3x4x5x6x7x8x9",
      "w10x1x2x3x4x5x6x7x8yAyBx9w20x1x2x3x4x5yAx6x7x8x9w30x1x2x3yAx4yAx5yAx6x7yAx8x9w40x1x2vL001y2y3",
      "y4y5zAy6y7y8y9x10y1y2y3y4y5y6y7zAy8y9x20vU001y2y3y4y5y6y7y8y9x10zAy1zAy2y3y4y5y6y7y8zAy9x20y1",
      "y2zAuO001yAx2x3x4x5yAx6yAyByCyDyEyFx7x8x9w10yAyByCx1x2x3x4x5x6x7x8x9yAw20yAx1x2x3x4yAx5yAx6x7",
      "x8x9yAw30yAx1x2x3yAx4x5x6yAyByCyDx7x8x9w40x1x2x3x4x5x6x7x8x9w50yAyBx1uP001yAx2x3yAx4x5x6x7x8",
      "x9w10x1uQ001x2x3x4x5x6x7uR001x2yAx3yAyBx4x5x6x7x8x9w10yAx1x2x3x4x5x6yAx7x8x9w20x1x2x3x4x5x6x7",
      "x8x9uS001x2yAx3x4x5x6yAx7x8x9w10x1x2x3x4yAyBx5x6x7yAx8x9w20x1x2x3x4x5x6yAyBx7x8x9w30x1x2x3x4",
      "x5yAx6x7x8x9w40x1x2x3x4x5x6uT001x2x3yAx4x5x6x7yAx8yAx9yAw10x1yAx2x3x4x5x6yAx7x8x9w20x1x2x3x4",
      "x5x6x7x8x9w30x1x2yAx3yAx4x5x6uU001x2x3x4x5x6yAyBx7x8x9w10x1x2x3x4x5x6x7x8x9w20x1x2x3yAx4x5x6",
      "x7x8x9yAw30x1x2yAx3x4x5x6x7x8x9w40x1x2uV001yAyByCyDyEyFyGyHyIx2yAx3x4x5x6x7yAyBx8x9w10x1yAyB",
      "yCx2yAyBx3x4x5x6x7x8x9w20yAyByCyDyEyFyGyHyIyJyKyLx1x2x3yAx4x5x6x7x8yAx9yAw30yAx1yAx2x3yAx4x5",
      "x6x7yAx8x9w40yAuW001x2x3yAx4x5x6x7x8x9yAw10yAx1x2x3x4yAx5x6x7yAx8yAx9w20x1x2x3x4yAx5uX001x2x3",
      "x4yAyBx5x6yAx7x8yAuY001yAx2x3x4x5x6x7x8uZ001x2yAyByCyDx3yAyBx4yAx5yAx6x7x8x9w10x1x2x3x4x5yAyB",
      "yCyDyEyFyGyHyIx6yAyByCyDyEyFyGyHuAA001y2y3y4y5y6y7zAzBy8y9x10y1y2y3y4y5y6y7y8y9x20y1y2y3y4y5",
      "y6y7y8y9x30y1y2"]),
    (0x13430, ["aEGYPTIAN HIEROGLYPH VERTICAL JOINERuHORIZONTAL JOINERuINSERT AT TOP START",
      "+eBOTTOM START+eTOP END+eBOTTOM ENDuOVERLAY MIDDLEuBEGIN SEGMENTuEND SEGMENT"]),
    (0x14400, ["aANATOLIAN HIEROGLYPH A001y2y3y4y5y6y7y8y9x10zAy1y2y3y4y5y6y7y8y9x20y1y2y3y4y5y6zAy7",
      "y8y9x30y1y2y3y4y5y6y7y8y9zAx40y1zAy2y3y4y5zAy6zAzBy7y8y9x50y1y2y3y4y5y6y7y8y9x60y1y2y3y4y5y6",
      "zAzBzCy7y8y9x70y1y2y3y4y5y6y7y8y9x80y1y2y3y4y5y6y7y8y9x90y1y2y3y4y5y6y7zAy8zAy9w100zAy1zAy2zA",
      "y3y4zAzBzCy5zAzBy6y7zAzBzCy8y9x10zAzBy1y2y3y4y5zAy6y7y8y9x20y1y2y3y4y5zAy6y7y8y9x30y1y2y3y4y5",
      "zAy6y7y8y9x40y1y2y3y4y5y6y7y8y9x50y1y2y3y4y5y6y7y8y9x60y1y2y3y4y5y6y7y8y9x70y1y2y3y4y5y6y7y8",
      "y9x80y1y2y3y4y5y6y7y8y9x90y1y2y3y4y5y6y7y8y9w200y1y2zAzBy3y4y5y6y7zAy8y9zAx10y1y2y3y4y5zAy6zA",
      "y7y8y9x20y1y2y3y4y5y6y7zAy8y9x30y1y2y3y4y5y6y7y8y9x40y1y2y3y4y5y6y7y8y9x50y1y2y3y4y5y6y7y8y9",
      "x60y1y2y3y4y5y6y7zAy8y9x70y1y2y3y4y5y6y7y8y9x80y1y2y3y4y5y6y7y8y9zAx90y1y2y3y4zAy5y6y7y8y9zA",
      "w300y1y2y3y4y5y6y7y8y9zAx10y1y2y3y4y5y6y7y8y9x20y1y2y3y4y5y6y7y8y9zAx30y1y2AzBzCy3y4y5y6zAzB",
      "zCy7y8y9x40y1y2y3y4y5y6y7y8y9x50y1y2y3y4y5y6y7y8y9zAx60y1y2y3y4zAy5y6y7y8zAy9x70y1zAy2y3y4y5",
      "y6y7y8y9x80y1zAy2y3 RA OR RIzAy4y5y6zAy7y8y9x90y1y2y3 EIGHTy4y5y6y7y8y9w400y1y2y3y4y5y6y7y8y9",
      "x10 BEGIN LOGOGRAM MARKzA END LOGOGRAM MARKy1y2y3y4y5y6y7y8y9x20y1y2y3y4y5y6y7y8y9x30y1y2y3y4",
      "y5y6y7y8y9x40y1y2y3y4y5y6y7y8y9x50zAy1y2y3y4y5y6y7zAy8y9x60y1y2y3y4y5y6y7y8y9x70y1y2y3y4y5y6",
      "y7y8y9x80y1y2y3y4y5y6y7y8y9x90y1y2y3y4y5y6y7w501y2y3y4y5y6y7y8y9x10y1y2y3y4y5y6y7y8y9x20y1y2",
      "y3y4y5y6y7y8y9x30"]),
    (0x16800, ["aBAMUM LETTER PHASE-A NGKUE MFONvGBIEE FONvPON MFON PIPAEMGBIEE+kBAvNAA MFON",
      "vSHUENSHUETvTITA MFONvNZA MFONvSHINDA PA NJIvPON PA NJI PIPAEMGBIEE+mBAvMAEMBGBIEEvTU MAEMBA",
      "vNGANGUvMAEMVEUXxNSUAEwVEUAENGAMvSEUNYAMvNTOQPENvKEUKEUTNDAvNKINDIvSUUvNGKUENZEUMvLAPAQ",
      "wET KUTvNTAP MFAAvMAEKEUPvPASHAEvGHEUAERAEvPAMSHAEvMON NGGEUAETvNZUN MEUTvU YUQ NAE",
      "vGHEUAEGHEUAEvNTAP NTAAvSISAvMGBASAwEUNJOMNDEUQwOOMPUQvKAFAvPA LEERAEWAvNDA LEERAEWAvPET",
      "vMAEMKPENvNIKAvPUPvTUAEPvLUAEPvSONJAMvTEUTEUWENvMAENYIvKETvNDAANGGEUAETvKUOQvMOOMEUTvSHUM",
      "vLOMMAEvFIRIvROMvKPOQvSOQvMAP PIEETvSHIRAEvNTAPvSHOQ NSHUT YUMvNYIT MONGKEUAEQvPAARAEvNKAARAE",
      "vUNKNOWNvNGGENvMAESIvNJAMvMBANYIvNYETvTEUAENvSOTvPAAMvNSHIEEvMAEMvNYIvKAQvNSHAvVEEvLUvNENwAQ",
      "vMBAQtB NSHUETvTU MAEMGBIEEvSIEEwET TUvLOM NTEUMvMBA MAELEEvKIEEMvYEURAEvMBAARAEvKAMvPEESHI",
      "vYAFU LEERAEWAvLAM NSHUT NYAMvNTIEE SHEUOQwDU NJAAvGHEUGHEUAEMvPITvTU NSIEEvSHET NJAQyUAEQTU",
      "vMFON TEUAEQwBIT MBAAKETvNYI NTEUMvKEUPUQvGHEUGHENvKEUYEUXvLAANAEvPARUMvVEUMvNGKINDI MVOP",
      "xGEU MBUvWUAETvSAKEUAEvTAAMvMEUQvNGGUOQ+b LARGEvMFIYAQvSUEvMBEURIwONTIEENvNYAEMAEvPUNGAAM",
      "vMEUT NGGEETvFEUXvMBUOQvFEEvKEUAEMvMA NJEUAENA+aUQAvLETvNGGAAMwSENvMAvKIQvNGOMtC NGKUE MAEMBA",
      "wZAvYUMvWANGKUOQvNGGENwDEUAEREEwGKAQvGHARAEvMBEEKEETvGBAYIvNYIR MKPARAQ MEUNwTU MBITvMBEUM",
      "vPIRIEENvNDOMBUvMBAA CABBAGE-TREEvKEUSHEUAEPvGHAPvKEUKAQvYU MUOMAEvNZEUMvMBUEvNSEUAENvMBIT",
      "vYEUQvKPARAQwAAvSEUXvNDIDAvTAASHAEvNJUEQvTITA YUEvSUAETvNGGUAEN NYAMvVEUXvNANSANAQvMA KEUAERI",
      "vNTAAwGGUONvLAPvMBIRIEENwGBASAQvNTEUNGBAvTEUTEUXvNGGUMvFUEvNDEUTwSAxHAQvBUNGvVEUAEPENvMBERAE",
      "vRUvNJAEMvLAMvTITUAEPvNSUOT NGOMwJEEEEvKETvNGGUvMAESIwBUAEMvLUvKUTvNJAMwGOMvWUPvNGGUEETwSOM",
      "wTENvKUOP NKAARAEvNSUNwDAMvMA NSIEEvYAAvNDAPvSHUEQwETFONvMBIwAEMBAwBANYIvKEUSEUXvMBEUXvKEUM",
      "vMBAA PICKETvYUWOQvNJEUXvMIEEwUAEvSHIQvKEN LAWzFATIGUEvNGAQwAQvLIQvPINwENvTETtD MBUOvWAPvNJI",
      "vMFONvNJIEEvLIEEvNJEUTwSHEEwGGAAMAEwYAMvWUAENvNGKUNvSHEEvNGKAPvKEUAETMEUNvTEUTvSHEUAEvNJAP",
      "vSUEvKETvYAEMMAEvKUOMvSAPvMFEUTvNDEUXvMALEERIwEUTvSEUAEQvYENvNJEUAEMvKEUOT MBUAEvNGKEURIvTU",
      "vGHAAvNGKYEEvFEUFEUAETvNDEEvMGBOFUMvLEUAEPvNDONvMONIwGBEUNvPUUTvMGBIEEwFOvLUMvNSIEEPvMBAA",
      "vKWAETvNYETvTEUAENvSOTvYUWOQvKEUMvRAEMvTEEEEvNGKEUAEQvMFEUAEvNSIEETvKEUPvPIPwEUTAEvNYUEvLET",
      "vNGGAAMvMFIEEvNGGWAENvYUOMvPAPvYUOPvNDAMwTEUMvSUAEvKUNvNGGEUXxKIEEvTUOTvMEUNvKUQvNSUMvTEUN",
      "vMAENJETvNGGAPvLEUMvNGGUOMwSHUTwJUEQvGHEUAEvKUvREN OLDvTAEwOQvNYIvRIIvLEEEEvMEEEEwvSUUvMU",
      "vSHIIxEUXvKYEEvNUvSHUvNTEEvPEEvNIvSHOQvPUQvMVOPvLOQvREN MUCHvTIvNTUUvMBAA SEVENvSAQvFAA",
      "tE NDAPvTOONvMBEUMvLAPvVOMvLOONvPAAvSOMvRAQvNSHUOPwDUNvPUAEvTAMvNGKAvKPEUXvWUOvSEEvNGGEUAET",
      "vPAAMvTOOvKUOPvLOMvNSHIEEwGOPvMAEMvNGKEUXxOQwSHUEvRIMGBAvNJEUXvPEEMvSAAvNGGURAEvMGBAvGHEUX",
      "vNGKEUAEMwJAEMLIvMAPvLOOTvNGGEEEEwDIQvTAEN NTEUMvSETvPUMvNDAA SOFTNESSwGGUAESHAE NYAMvYIEE",
      "vGHEUNvTUAEvYEUAEvPOvTUMAEvKEUAEvSUAENvTEUAEQvVEUAEvWEUXvLAAMvPUvTAAQvGHAAMAEvNGEUREUT",
      "vSHEUAEQvMGBENwBEEvNZAQwKOMvGBETvTUMvKUETvYAPvNYI CLEAVERvYITvMFEUQvNDIAQvPIEEQvYUEQvLEUAEM",
      "vFUEvGBEUXvNGKUPvKETvMAEvNGKAAMIvGHETvFAvNTUMvPEUTvYEUMvNGGEUAEwYI BETWEENwZUQvPOONvMIEEvFUET",
      "vNAEvMUAEvGHEUAEvFU IvMVIvPUAQvNGKUMvKUTvPIETvNTAPvYEUAETvNGGUPvPA PEOPLEvFU CALLwOMvNJEEvA",
      "vTOQvOvIvLAQvPA PLURALvTAAxQvNDAA MY HOUSEvSHIQvYEUXvNGUAEvYUAENwOQ SWIMMINGzCOVERwUQxNvKEUX",
      "vPEUXvNJEE EPOCHvPUEvWUEvFEEvVEEvLUvMIvREUXwAEvNGUAETxAvSHOyQvFU REMEDYvNAvPIvLOQvKOvMENwAxQ",
      "vTEUvKIvMONvTENvFAQvGHOMtF KAvUvKUvEEvREEvTAEvNYIvLAvRIIxEEvMEEEEvTAAvNDAAwJAEMvMvSUUwHIIwI",
      "wEUXvKYEEwETvNUAExwJUAEvYOQvSHUvYAvNSHAvPEUXvNTEEvWUEvPEEvRUvNIvREUXvKENvNGKWAENxGAvSHOvPUAE",
      "vFOMvWAvLIwOQvKOvMBENvRENvMAwOwBAAvTETvKPAvSAMBAvVUEQ"]),
    (0x16A40, ["aMRO LETTER TAlNGIlYOlMIMlBAlDAlAlPHIlKHAIlHAOlDAIlCHUlKEAAElOLlMAEMlNINlPAlOOmlRO",
      "lSHIlTHEAlEAlWAlElKOlLANnlHAIlRIlTEK"]),
    (0x16A60, ["aMRO DIGIT ZEROkONEkTWOlHREEkFOURlIVEkSIXlEVENkEIGHTkNINE"]),
    (0x16A6E, ["aMRO DANDAfOUBLE DANDAaTANGSA LETTER OZpCpQpXoAZpCpQpXoVZpCpQpXoEZpCpQpXoIZpCpQpXoUZ",
      "pCpQpXoAWZqCqQqXoUIZqCqQqXoFINAL NGoLONG UEXoSHORT UEZuAWXoUECqZqQqXpIUZrCrQrXoMZpCpQpXoKApHA",
      "oGAoNGAoSAoYAoWAoPAoNYAoPHAoBAoMAoNAoHAoLAoHTAoTAoDAoRAoNHAoSHAoCAoTSAoGHAoHTTAoTHAoXAoFAoDHA",
      "oCHAoZA"]),
    (0x16AC0, ["aTANGSA DIGIT ZEROnONEnTWOoHREEnFOURoIVEnSIXoEVENnEIGHTnNINE"]),
    (0x16AD0, ["aBASSA VAH LETTER ENNIrKArSErFArMBErYIErGAHrDHIIrKPAHrJOrHWAHrWArZOrGBUrDOrCErUWUrTO",
      "rBArVUrYEINrPArWADDArArOsOrUrEEsrI"]),
    (0x16AF0, ["aBASSA VAH COMBINING HIGH TONEuLOW TONEuMID TONEuLOW-MID TONEuHIGH-LOW TONE",
      "kFULL STOP"]),
    (0x16B00, ["aPAHAWH HMONG VOWEL KEEBwVuIBvVuAUBwVuUBvVuEBvVuAIBwVuOOBwVuAWBwVuUABwVuOBvVuIABwV",
      "uABvVuWBvVuAABwVnCONSONANT VAUxNTSAUxLAUxHAUxNLAUxRAUxNKAUxQHAUxYAUxHLAUxMAUxCHAUxNCHAUxHNAU",
      "xPLHAUxNTHAUyAUxAUxXAUxCAUnMARK CIM TUBwSOwKESxHAVwSUAMwHOMwTAUMnSIGN VOS THOMxSHAB CEEB",
      "sCIM CHEEMsVOS THIABwFEEMsXYEEM NTXIVyRHOyTOVyFAIBsVOS SEEVsMEEJ SUABsVOS NRUAsIB YAMsXAUS",
      "sCIM TSOV ROG"]),
    (0x16B50, ["aPAHAWH HMONG DIGIT ZEROtONEtTWOuHREEtFOURuIVEtSIXuEVENtEIGHTtNINE"]),
    (0x16B5B, ["aPAHAWH HMONG NUMBER TENSuHUNDREDSuTEN THOUSANDSuMILLIONSuHUNDRED MILLIONS",
      "uTEN BILLIONSvRILLIONS"]),
    (0x16B63, ["aPAHAWH HMONG SIGN VOS LUBsXYOOsHLIsTHIRD-STAGE HLIsZWJ THAJsHNUBsNQIGsXIABsNTUJsAV",
      "sTXHEEJ CEEVsMEEJ TSEEBsTAUsLOSsMUSsCIM HAIS LUS NTOG NTOGwCUAM TSHOOJwTXWV+a CHWVwPUB DAWB",
      "wNRES TOS"]),
    (0x16B7D, ["aPAHAWH HMONG CLAN SIGN TSHEEJxYEEGxLISyAUJxXYOOJxKOOxHAWJxMUASxTHOJySABxPHABxKHAB",
      "xHAMxVAJxFAJxYAJxTSWBxKWMxVWJ"]),
    (0x16E40, ["aMEDEFAIDRIN CAPITAL LETTER M+bS+bV+bW+bATIU+bZ+bKP+bP+bT+bG+bF+bI+bK+bA+bJ+bE+bB+bC",
      "+bU+bYU+bL+bQ+bHP+bNY+bX+bD+bOE+bN+bR+bO+bAI+bYmSMALL LETTER MzSzVzWzATIUzZzKPzPzTzGzFzIzKzA",
      "zJzEzBzCzUzYUzLzQzHPzNYzXzDzOEzNzRzOzAIzYmDIGIT ZEROsONEsTWOtHREEsFOURtIVEsSIXtEVENsEIGHT",
      "sNINEmNUMBER TENtELEVENtTWELVEuHIRTEENtFOURTEENuIFTEENtSIXTEENuEVENTEENtEIGHTEENtNINETEEN",
      "mDIGIT ONE ALTERNATE FORMsTWO ALTERNATE FORMtHREE ALTERNATE FORMmCOMMAmFULL STOPmSYMBOL AIVA",
      "mEXCLAMATION OH"]),
    (0x16F00, ["aMIAO LETTER PAmBAmYI PAmPLAmMAnHAmARCHAIC MAmFAmVAnFAmTAmDAmYI TTAqAmTTAmDDAmNAnHA",
      "mYI NNAmARCHAIC NAmNNAoHAmLAnYAnHAoYAmTLHAmDLHAmTLHYAmDLHYAmKAmGAmYI KAmQAnGAmNGAoHA",
      "mARCHAIC NGAmHAmXAmGHAoHAmTSSAmDZZAmNYAoHAmTSHAmDZHAmYI TSHApDZHAmREFORMED TSHAmSHAnSAmZHA",
      "nSHAmTSAmDZAmYI TSAmSAmZAnSAnZAoSAmARCHAIC ZZAmZZYAoSYAmWAmAHmHHAmBRImSYImDZYImTEnSEmRTE"]),
    (0x16F4F, ["aMIAO SIGN CONSONANT MODIFIER BARfLETTER NASALIZATIONfSIGN ASPIRATION",
      "kREFORMED VOICINGtASPIRATIONfVOWEL SIGN ArArHHrNsGqOrOqWOrqErNsGqOEYqIrAsNtGrOrErIrUrNGqUrAsN",
      "tGrUrEIrNGqYrIqAEsEqERRqROUNDED ERRqERqROUNDED ERqAIqEIqAUqOUqNrGqUOGqYUIqOGrERqVWqIGqEAqIONG",
      "qUI"]),
    (0x16F8F, ["aMIAO TONE RIGHTkTOP RIGHTkABOVEkBELOWfLETTER TONE-2r3r4r5r6r7r8mREFORMED TONE-1+a2",
      "+a4+a5+a6+a8"]),
    (0x16FE0, ["aTANGUT ITERATION MARKaNUSHU ITERATION MARKaOLD CHINESE HOOK MARKmITERATION MARK",
      "aKHITAN SMALL SCRIPT FILLER"]),
    (0x16FF0, ["aVIETNAMESE ALTERNATE READING MARK CA+iNHAY"]),
    (0x18800, ["aTANGUT COMPONENT-001t2t3t4t5t6t7t8t9s10t1t2t3t4t5t6t7t8t9s20t1t2t3t4t5t6t7t8t9s30t1",
      "t2t3t4t5t6t7t8t9s40t1t2t3t4t5t6t7t8t9s50t1t2t3t4t5t6t7t8t9s60t1t2t3t4t5t6t7t8t9s70t1t2t3t4t5",
      "t6t7t8t9s80t1t2t3t4t5t6t7t8t9s90t1t2t3t4t5t6t7t8t9r100t1t2t3t4t5t6t7t8t9s10t1t2t3t4t5t6t7t8t9",
      "s20t1t2t3t4t5t6t7t8t9s30t1t2t3t4t5t6t7t8t9s40t1t2t3t4t5t6t7t8t9s50t1t2t3t4t5t6t7t8t9s60t1t2t3",
      "t4t5t6t7t8t9s70t1t2t3t4t5t6t7t8t9s80t1t2t3t4t5t6t7t8t9s90t1t2t3t4t5t6t7t8t9r200t1t2t3t4t5t6t7",
      "t8t9s10t1t2t3t4t5t6t7t8t9s20t1t2t3t4t5t6t7t8t9s30t1t2t3t4t5t6t7t8t9s40t1t2t3t4t5t6t7t8t9s50t1",
      "t2t3t4t5t6t7t8t9s60t1t2t3t4t5t6t7t8t9s70t1t2t3t4t5t6t7t8t9s80t1t2t3t4t5t6t7t8t9s90t1t2t3t4t5",
      "t6t7t8t9r300t1t2t3t4t5t6t7t8t9s10t1t2t3t4t5t6t7t8t9s20t1t2t3t4t5t6t7t8t9s30t1t2t3t4t5t6t7t8t9",
      "s40t1t2t3t4t5t6t7t8t9s50t1t2t3t4t5t6t7t8t9s60t1t2t3t4t5t6t7t8t9s70t1t2t3t4t5t6t7t8t9s80t1t2t3",
      "t4t5t6t7t8t9s90t1t2t3t4t5t6t7t8t9r400t1t2t3t4t5t6t7t8t9s10t1t2t3t4t5t6t7t8t9s20t1t2t3t4t5t6t7",
      "t8t9s30t1t2t3t4t5t6t7t8t9s40t1t2t3t4t5t6t7t8t9s50t1t2t3t4t5t6t7t8t9s60t1t2t3t4t5t6t7t8t9s70t1",
      "t2t3t4t5t6t7t8t9s80t1t2t3t4t5t6t7t8t9s90t1t2t3t4t5t6t7t8t9r500t1t2t3t4t5t6t7t8t9s10t1t2t3t4t5",
      "t6t7t8t9s20t1t2t3t4t5t6t7t8t9s30t1t2t3t4t5t6t7t8t9s40t1t2t3t4t5t6t7t8t9s50t1t2t3t4t5t6t7t8t9",
      "s60t1t2t3t4t5t6t7t8t9s70t1t2t3t4t5t6t7t8t9s80t1t2t3t4t5t6t7t8t9s90t1t2t3t4t5t6t7t8t9r600t1t2",
      "t3t4t5t6t7t8t9s10t1t2t3t4t5t6t7t8t9s20t1t2t3t4t5t6t7t8t9s30t1t2t3t4t5t6t7t8t9s40t1t2t3t4t5t6",
      "t7t8t9s50t1t2t3t4t5t6t7t8t9s60t1t2t3t4t5t6t7t8t9s70t1t2t3t4t5t6t7t8t9s80t1t2t3t4t5t6t7t8t9s90",
      "t1t2t3t4t5t6t7t8t9r700t1t2t3t4t5t6t7t8t9s10t1t2t3t4t5t6t7t8t9s20t1t2t3t4t5t6t7t8t9s30t1t2t3t4",
      "t5t6t7t8t9s40t1t2t3t4t5t6t7t8t9s50t1t2t3t4t5t6t7t8t9s60t1t2t3t4t5t6t7t8"]),
    (0x1AFF0, ["aKATAKANA LETTER MINNAN TONE-2+c3+c4+c5"]),
    (0x1AFF5, ["aKATAKANA LETTER MINNAN TONE-7+c8xNASALIZED TONE-1+m2+m3+m4+m5"]),
    (0x1AFFD, ["aKATAKANA LETTER MINNAN NASALIZED TONE-7+m8"]),
    (0x1B000, ["aKATAKANA LETTER ARCHAIC EaHIRAGANA LETTER ARCHAIC YEbENTAIGANA LETTER A-1u2u3uWO",
      "sI-1u2u3u4sU-1u2u3u4u5sE-2u3u4u5u6sO-1u2u3sKA-1v2v3v4v5v6v7v8v9v10w1vKEtI-1v2v3v4v5v6v7v8tU-1",
      "v2v3v4v5v6v7tE-1v2v3v4v5v6tO-1v2v3vKIsSA-1v2v3v4v5v6v7v8tI-1v2v3v4v5v6tU-1v2v3v4v5v6v7v8tE-1",
      "v2v3v4v5tO-1v2v3v4v5v6v7sTA-1v2v3v4tI-1v2v3v4v5v6v7tU-1v2v3v4vTOtE-1v2v3v4v5v6v7v8v9tO-1v2v3",
      "v4v5v6vRAsNA-1v2v3v4v5v6v7v8v9tI-1v2v3v4v5v6v7vTEtU-1v2v3tE-1v2v3v4v5v6vKOtO-1v2v3v4v5sHA-1v2",
      "v3v4v5v6v7v8v9v10w1tI-1v2v3v4v5v6v7tU-1v2v3tE-1v2v3v4v5v6v7tO-1v2v3v4v5v6v7v8sMA-1v2v3v4v5v6",
      "v7tI-1v2v3v4v5v6v7tU-1v2v3v4tE-1v2vMAtO-1v2v3v4v5v6sYA-1v2v3v4v5vYOtU-1v2v3v4tO-1v2v3v4v5v6",
      "sRA-1v2v3v4tI-1v2v3v4v5v6v7tU-1v2v3v4v5v6tE-1v2v3v4tO-1v2v3v4v5v6sWA-1v2v3v4v5tI-1v2v3v4v5",
      "tE-1v2v3v4tO-1v2v3v4v5v6v7sN-MU-MO-1+a2bIRAGANA LETTER ARCHAIC WUaKATAKANA LETTER ARCHAIC YI",
      "zEyWU"]),
    (0x1B150, ["aHIRAGANA LETTER SMALL WIxExO"]),
    (0x1B164, ["aKATAKANA LETTER SMALL WIxExOwN"]),
    (0x1BC00, ["aDUPLOYAN LETTER HqXqPqTqFqKqLqBqDqVqGqRqP NqD SqF NqK MqR SqTHqSLOAN DHqDHqKK",
      "qSLOAN JqHLqLHqRHqMqNqJqSqM NqN MqJ MqS JqM WITH DOTqN WITH DOTqJ WITH DOT",
      "+aS INSIDE AND ABOVEqS WITH DOT+a BELOWqM SqN SqJ SqS SqM N SqN M SqJ M SqS J SqJ S WITH DOT",
      "sNt SqS Tt RsPt RqT SsR SqWrHr RqS NsMqK R SqG R SqS Kt RqAqSLOAN OWqOArqAOUqIqEqIEqSHORT I",
      "qUIqEEqSLOAN EHqROMANIAN IqSLOAN EEqLONG IqYEqUqEUqXWqU NqLONG UqROMANIAN UqUHqSLOAN UqOOHrW",
      "rUqWArOrIrEIrOWqNASAL UwOwIwAqPERNIN ANyMqSLOAN ENwANwONqVOCALIC M"]),
    (0x1BC70, ["aDUPLOYAN AFFIX LEFT HORIZONTAL SECANTpMID HORIZONTAL SECANTpRIGHT HORIZONTAL SECANT",
      "pLOW VERTICAL SECANTpMID VERTICAL SECANTpHIGH VERTICAL SECANTpATTACHED SECANT",
      "yLEFT-TO-RIGHT SECANTyTANGENT+aILyE HOOKyI HOOKyTANGENT HOOK"]),
    (0x1BC80, ["aDUPLOYAN AFFIX HIGH ACUTEuTIGHT ACUTEuGRAVEuLONG GRAVEuDOTuCIRCLEuLINEuWAVE",
      "uVERTICAL"]),
    (0x1BC90, ["aDUPLOYAN AFFIX LOW ACUTEtTIGHT ACUTEtGRAVEtLONG GRAVEtDOTtCIRCLEtLINEtWAVEtVERTICAL",
      "tARROW"]),
    (0x1BC9C, ["aDUPLOYAN SIGN O WITH CROSSjTHICK LETTER SELECTORjDOUBLE MARK",
      "jPUNCTUATION CHINOOK FULL STOPaSHORTHAND FORMAT LETTER OVERLAPrCONTINUING OVERLAPrDOWN STEP",
      "rUP STEP"]),
    (0x1CF00, ["aZNAMENNY COMBINING MARK GORAZDO NIZKO S KRYZHEM ON LEFTyNIZKO S KRYZHEM ON LEFT",
      "yTSATA ON LEFTyGORAZDO NIZKO ON LEFTyNIZKO ON LEFTySREDNE ON LEFTyMALO POVYSHE ON LEFT",
      "yPOVYSHE ON LEFTyVYSOKO ON LEFTyMALO POVYSHE S KHOKHLOM ON LEFTyPOVYSHE S KHOKHLOM ON LEFT",
      "yVYSOKO S KHOKHLOM ON LEFTyGORAZDO NIZKO S KRYZHEM ON RIGHTyNIZKO S KRYZHEM ON RIGHT",
      "yTSATA ON RIGHTyGORAZDO NIZKO ON RIGHTyNIZKO ON RIGHTySREDNE ON RIGHTyMALO POVYSHE ON RIGHT",
      "yPOVYSHE ON RIGHTyVYSOKO ON RIGHTyMALO POVYSHE S KHOKHLOM ON RIGHT",
      "yPOVYSHE S KHOKHLOM ON RIGHTyVYSOKO S KHOKHLOM ON RIGHTyTSATA S KRYZHEM",
      "yMALO POVYSHE S KRYZHEMySTRANNO MALO POVYSHEyPOVYSHE S KRYZHEM+hTRANNOyVYSOKO S KRYZHEM",
      "yMALO POVYSHE STRANNOyGORAZDO VYSOKOyZELOyONyRAVNOyTIKHAYAyBORZAYAyUDARKAyPODVERTKAyLOMKA",
      "yKUPNAYAzACHKAyZEVOKySKOBAyRAZSEKAyKRYZH ON LEFT"]),
    (0x1CF30, ["aZNAMENNY COMBINING TONAL RANGE MARK MRACHNO+kSVETLO+kTRESVETLOtMARK ZADERZHKA",
      "yDEMESTVENNY ZADERZHKAyOTSECHKAyPODCHASHIE+i WITH VERTICAL STROKEyCHASHKA+f POLNAYAyOBLACHKO",
      "ySOROCHYA NOZHKAyTOCHKAyDVOETOCHIEtATTACHING VERTICAL OMETtMARK CURVED OMETyKRYZH",
      "tLOWER TONAL RANGE INDICATORjPRIZNAK MODIFIER LEVEL-2+g3+aDIRECTION FLIP+aKRYZH+aROG"]),
    (0x1CF50, ["aZNAMENNY NEUME KRYUKu TIKHYpPARAKLITpDVA V CHELNUpKLYUCHpZANOZHEKpSTOPITSA",
      "x S OCHKOMpPEREVODKAy NEPOSTOYANNAYApSTOPITSA WITH SOROCHYA NOZHKApCHELYUSTKApPALKApZAPYATAYA",
      "pGOLUBCHIK BORZYzTIKHYzMRACHNYzSVETLYzTRESVETLYpVRAKHIYA PROSTAYAyMRACHNAYAySVETLAYA",
      "yTRESVETLAYAyKLYUCHEVAYA PROSTAYA+kMRACHNAYA+kSVETLAYA+kTRESVETLAYApDOUBLE ZAPYATAYA",
      "pREVERSED CHELYUSTKApDERBITSApKHAMILOpCHASHKApPODCHASHIEpSKAMEYTSA MRACHNAYAzSVETLAYA",
      "zTRESVETLAYA+aIKHAYApDEMESTVENNY KLYUCHpSKAMEYTSA KLYUCHEVAYA SVETLAYA+gNEPOSTOYANNAYA",
      "+gVAYA TIKHAYAzDVOECHELNAYA PROSTAYA+mSVETLAYA+mNEPOSTOYANNAYA+mKLYUCHEVAYAqLOZHITIE",
      "y S ZAPYATOYzZAKRYTOEzS KRYZHEMpKRYZHpROGpFITApKOBYLApZMEYTSApSTATYAv S ZAPYATOYyKRYZHEM",
      "yZAPYATOY I KRYZHEMyKRYZHEM I ZAPYATOYwZAKRYTAYA+f S ZAPYATOYwS ROGOMyDVUMYA ZAPYATYMI",
      "yZAPYATOY I PODCHASHIEMpPOLKULIZMYpSTATYA NEPOSTOYANNAYArRELA PROSTAYAwMRACHNOTIKHAYA",
      "wKRYZHEVAYAwPOLUPOVODNAYAyVODNAYAwNEPOSTOYANNAYAwKLYUCHEPOVODNAYA+dNEPOSTOYANNAYA",
      "wTIKHAYA PUTNAYAwDVOECHELNAYA+fOKRYZHEVAYA+gPOVODNAYA+fAYA KLYUCHEVAYA",
      "+fOPOVODNAYA KLYUCHEVAYAwGROMNAYA WITH SINGLE ZAPYATAYA+aOPOVODNAYA WITH SINGLE ZAPYATAYA",
      "+aNAYA+aOPOVODNAYA+k WITH DOUBLE ZAPYATAYA+bKRYZHEVAYA+l POVODNAYApMECHIKv POVODNYwKLYUCHEVOY",
      "+dPOVODNY+dNEPOSTOYANNYpSTRELA TRYASOGLASNAYA+cPOVODNAYA+cSTRELNAYApOSOKAu SVETLAYA",
      "vTRESVETLAYAvKRYUKOVAYA SVETLAYAwLYUCHEVAYA SVETLAYA+hNEPOSTOYANNAYApSTRELA KRYUKOVAYA",
      "+g POVODNAYA+hGROMNAYA WITH SINGLE ZAPYATAYA+lOPOVODNAYA WITH SINGLE ZAPYATAYA+lNAYA",
      "+lOPOVODNAYA+v WITH DOUBLE ZAPYATAYA+mKRYZHEVAYA+w POVODNAYA+hTRYASKApKUFISMApOBLAKOpDUDA",
      "pNEMKApPAUK"])]

end DocAudit.Text
