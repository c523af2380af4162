/-!
# Names of code points: pictures

The names of the code points from 0x1D000 on, in runs of consecutive ones. A name begins with
as many characters of the name before it as its mark says; a mark is a small letter, `a` for none, and
each plus sign in front of it counts for 26 more.
-/

namespace DocAudit.Text

/-- The first code point of each run, and the names of the run, in pieces. -/
def pictureNames : List (Nat × List String) := [
    (0x1D000, ["aBYZANTINE MUSICAL SYMBOL PSILIzDASEIAzPERISPOMENIzOXEIA EKFONITIKON+fDIPLI",
      "zVAREIA EKFONITIKON+gDIPLIzKATHISTIzSYRMATIKIzPARAKLITIKIzYPOKRISIS+i DIPLIzKREMASTI",
      "zAPESO EKFONITIKONzEXO EKFONITIKONzTELEIAzKENTIMATAzAPOSTROFOS+j DIPLIzSYNEVMAzTHITA",
      "zOLIGON ARCHAIONzGORGON ARCHAIONzPSILONzCHAMILONzVATHYzISON ARCHAIONzKENTIMA ARCHAION",
      "+gTA ARCHAIONzSAXIMATAzPARICHONzSTAVROS APODEXIAzOXEIAI ARCHAIONzVAREIAI ARCHAION",
      "zAPODERMA ARCHAION+cTHEMAzKLASMAzREVMAzPIASMA ARCHAIONzTINAGMAzANATRICHISMAzSEISMA",
      "+aYNAGMA ARCHAION+hMETA STAVROUzOYRANISMA ARCHAIONzTHEMAzLEMOIzDYOzTRIA+aESSERAzKRATIMATA",
      "zAPESO EXO NEOzFTHORA ARCHAIONzIMIFTHORAzTROMIKON ARCHAIONzKATAVA TROMIKONzPELASTON+aSIFISTON",
      "zKONTEVMAzCHOREVMA ARCHAIONzRAPISMAzPARAKALESMA ARCHAION+eLITIKI ARCHAIONzICHADINzNANA",
      "zPETASMAzKONTEVMA ALLOzTROMIKON ALLOzSTRAGGISMATAzGRONTHISMATAzISON NEOzOLIGON NEO+aXEIA NEO",
      "zPETASTIzKOUFISMAzPETASTOKOUFISMAzKRATIMOKOUFISMAzPELASTON NEOzKENTIMATA NEO ANO+g NEO ANO",
      "zYPSILIzAPOSTROFOS NEO+iI SYNDESMOS NEOzYPORROIzKRATIMOYPORROONzELAFRONzCHAMILIzMIKRON ISON",
      "zVAREIA NEOzPIASMA NEO+aSIFISTON NEOzOMALONzANTIKENOMAzLYGISMAzPARAKLITIKI NEO+eALESMA NEO",
      "zETERON PARAKALESMAzKYLISMAzANTIKENOKYLISMAzTROMIKON NEOzEKSTREPTONzSYNAGMA NEO+bRMA",
      "zCHOREVMA NEOzEPEGERMAzSEISMA NEOzXIRON KLASMAzTROMIKOPSIFISTONzPSIFISTOLYGISMA",
      "zTROMIKOLYGISMA+gPARAKALESMAzPSIFISTOPARAKALESMAzTROMIKOSYNAGMAzPSIFISTOSYNAGMA",
      "zGORGOSYNTHETONzARGOSYNTHETONzETERON ARGOSYNTHETONzOYRANISMA NEOzTHEMATISMOS ESO+mXO+e APLOUN",
      "+cS KAI APOTHESzKATAVASMAzENDOFONONzYFEN KATO+eANOzSTAVROSzKLASMA ANOzDIPLI ARCHAION",
      "zKRATIMA ARCHAION+iLLO+hNEOzAPODERMA NEO+bLIzDIPLIzTRIPLI+aETRAPLIzKORONIS",
      "zLEIMMA ENOS CHRONOU+gDYO CHRONON+gTRION CHRONON+hESSARON CHRONON+gIMISEOS CHRONOU",
      "zGORGON NEO ANO+gPARESTIGMENON ARISTERA+uDEXIAzDIGORGON+h PARESTIGMENON ARISTERA KATO++fANO",
      "+wDEXIAzTRIGORGONzARGONzIMIDIARGONzDIARGONzAGOGI POLI ARGI+fARGOTERI+iI+fMETRIA+hSI+fGORGI",
      "+jOTERI+fPOLI GORGIzMARTYRIA PROTOS ICHOS+iALLI PROTOS ICHOS+iDEYTEROS ICHOS",
      "+iALLI DEYTEROS ICHOS+iTRITOS ICHOS+lFONIAS+jETARTOS ICHOS+rLEGETOS ICHOS+iLEGETOS ICHOS",
      "+iPLAGIOS ICHOSzISAKIA TELOUS ICHIMATOSzAPOSTROFOI TELOUS ICHIMATOSzFANEROSIS TETRAFONIAS",
      "+jMONOFONIAS+jDIFONIASzMARTYRIA VARYS ICHOS+iPROTOVARYS ICHOS+jLAGIOS TETARTOS ICHOS",
      "zGORTHMIKON N APLOUN+mDIPLOUNzENARXIS KAI FTHORA VOUzIMIFONON+dTHORON",
      "zFTHORA ARCHAION DEYTEROU ICHOU+gDIATONIKI PA+qNANA+gNAOS ICHOS+gDIATONIKI DI",
      "+gSKLIRON DIATONON DI+gDIATONIKI KE+qZO+qNI KATO+tANO+gMALAKON CHROMA DIFONIAS+vMONOFONIAS",
      "+aHTORA SKLIRON CHROMA VASIS+aTHORA SKLIRON CHROMA SYNAFI+gNENANOzCHROA ZYGOS+fKLITON+fSPATHI",
      "zFTHORA I YFESIS TETARTIMORION+gENARMONIOS ANTIFONIAzYFESIS TRITIMORIONzDIESIS TRITIMORION",
      "+hETARTIMORION+gAPLI DYO DODEKATA+gMONOGRAMMOS TESSERA DODEKATA+gDIGRAMMOS EX DODEKATA",
      "+gTRIGRAMMOS OKTO DODEKATAzYFESIS APLI DYO DODEKATA+gMONOGRAMMOS TESSERA DODEKATA",
      "+gDIGRAMMOS EX DODEKATA+gTRIGRAMMOS OKTO DODEKATAzGENIKI DIESIS+gYFESISzDIASTOLI APLI MIKRI",
      "+oEGALI+iDIPLI+iTHESEOSzSIMANSIS THESEOS+p DISIMOU+qTRISIMOU+rETRASIMOU+iARSEOS+o DISIMOU",
      "+pTRISIMOU+qETRASIMOUzDIGRAMMA GG+bFTOGGOS OUzSTIGMAzARKTIKO PA+hVOU+hGA+hDI+hKE+hZO+hNI",
      "zKENTIMATA NEO MESO+g NEO MESO+gTA NEO KATO+g NEO KATO+aLASMA KATOzGORGON NEO KATO"]),
    (0x1D100, ["aMUSICAL SYMBOL SINGLE BARLINEpDOUBLE BARLINEpFINAL BARLINEpREVERSE FINAL BARLINE",
      "pDASHED BARLINEpSHORT BARLINEpLEFT REPEAT SIGNpRIGHT REPEAT SIGNqEPEAT DOTSpDAL SEGNOr CAPO",
      "pSEGNOpCODApREPEATED FIGURE-1+f2+f3pFERMATAw BELOWpBREATH MARKpCAESURApBRACEtKET",
      "pONE-LINE STAFFpTWO-LINE STAFFqHREE-LINE STAFFpFOUR-LINE STAFFqIVE-LINE STAFFpSIX-LINE STAFF",
      "tSTRING FRETBOARDpFOUR-STRING FRETBOARDpG CLEFv OTTAVA ALTA+dBASSApC CLEFpF CLEFv OTTAVA ALTA",
      "+dBASSApDRUM CLEF-1z2"]),
    (0x1D129, ["aMUSICAL SYMBOL MULTIPLE MEASURE RESTpDOUBLE SHARPwFLATpFLAT UPuDOWNpNATURAL UPxDOWN",
      "pSHARP UPvDOWNpQUARTER TONE SHARP+cFLATpCOMMON TIMEqUT TIMEpOTTAVA ALTAwBASSA",
      "pQUINDICESIMA ALTA+cBASSApMULTI RESTpWHOLE RESTpHALF RESTpQUARTER RESTpEIGHTH REST",
      "pSIXTEENTH RESTpTHIRTY-SECOND RESTpSIXTY-FOURTH RESTpONE HUNDRED TWENTY-EIGHTH REST",
      "pX NOTEHEADpPLUS NOTEHEADpCIRCLE X NOTEHEADpSQUARE NOTEHEAD WHITE+fBLACK",
      "pTRIANGLE NOTEHEAD UP WHITE+kBLACK+hLEFT WHITE+mBLACK+hRIGHT WHITE+nBLACK+hDOWN WHITE+mBLACK",
      "+hUP RIGHT WHITE+qBLACKpMOON NOTEHEAD WHITE+dBLACKpTRIANGLE-ROUND NOTEHEAD DOWN WHITE+sBLACK",
      "pPARENTHESIS NOTEHEADpVOID NOTEHEADpNOTEHEAD BLACKqULL NOTEHEADpCLUSTER NOTEHEAD WHITE+gBLACK",
      "pBREVEpWHOLE NOTEpHALF NOTEpQUARTER NOTEpEIGHTH NOTEpSIXTEENTH NOTEpTHIRTY-SECOND NOTE",
      "pSIXTY-FOURTH NOTEpONE HUNDRED TWENTY-EIGHTH NOTEpCOMBINING STEM+aPRECHGESANG STEMzTREMOLO-1",
      "+h2+h3pFINGERED TREMOLO-1+g2+g3pCOMBINING AUGMENTATION DOTzFLAG-1+e2+e3+e4+e5pBEGIN BEAM",
      "pEND BEAMpBEGIN TIEpEND TIEpBEGIN SLURpEND SLURpBEGIN PHRASEpEND PHRASEpCOMBINING ACCENT",
      "zSTACCATOzTENUTOzSTACCATISSIMOzMARCATO+g-STACCATOzACCENT-STACCATOzLOUREpARPEGGIATO UP+aDOWN",
      "pCOMBINING DOITzRIPzFLIPzSMEARzBENDzDOUBLE TONGUEzTRIPLE TONGUEpRINFORZANDOpSUBITOpZpPIANO",
      "pMEZZOpFORTEpCRESCENDOpDECRESCENDOpGRACE NOTE SLASH+aNO SLASHpTRqURNpINVERTED TURNpTURN SLASH",
      "uUPpORNAMENT STROKE-1+f2+f3+f4+f5+f6+f7+f8+f9+f10+g1pHAUPTSTIMMEpNEBENSTIMMEpEND OF STIMME",
      "pDEGREE SLASHpCOMBINING DOWN BOWzUP BOWzHARMONICzSNAP PIZZICATOpPEDAL MARKvUP MARK",
      "pHALF PEDAL MARKpGLISSANDO UPzDOWNpWITH FINGERNAILSpDAMPt ALLpMAXIMApLONGApBREVIS",
      "pSEMIBREVIS WHITE+aBLACKpMINIMAv BLACKpSEMIMINIMA WHITE+aBLACKpFUSA WHITEuBLACK",
      "pLONGA PERFECTA RESTvIMPERFECTA RESTpBREVIS RESTpSEMIBREVIS RESTpMINIMA RESTpSEMIMINIMA REST",
      "pTEMPUS PERFECTUM CUM PROLATIONE PERFECTA+vIMPERFECTA+vPERFECTA DIMINUTION-1",
      "wIMPERFECTUM CUM PROLATIONE PERFECTA+xIMPERFECTA++h DIMINUTION-1++t2++t3pCROIX",
      "pGREGORIAN C CLEFzF CLEFpSQUARE BpVIRGApPODATUSpCLIVISpSCANDICUSpCLIMACUSpTORCULUSpPORRECTUS",
      "y FLEXUSpSCANDICUS FLEXUSpTORCULUS RESUPINUSpPES SUBPUNCTISpKIEVAN C CLEFwEND OF PIECE",
      "wFINAL NOTEwRECITATIVE MARKwWHOLE NOTEwHALF NOTEwQUARTER NOTE STEM DOWN+oUP",
      "wEIGHTH NOTE STEM DOWN+nUPwFLAT SIGNpSORIpKORON"]),
    (0x1D200, ["aGREEK VOCAL NOTATION SYMBOL-1+c2+c3+c4+c5+c6+c7+c8+c9+c10+d1+d2+d3+d4+d5+d6+d7+d8",
      "+d9+c20+d1+d2+d3+d4+c50+d1+d2+d3+d4gINSTRUMENTAL NOTATION SYMBOL-1+j2+j4+j5+j7+j8+j11+k2+k3",
      "+k4+k7+k8+k9+j23+k4+k5+k6+k7+k9+j30+k2+k6+k7+k8+k9+j40+k2+k3+k5+k7+k8+k9+j50+k1+k2+k3+k4",
      "aCOMBINING GREEK MUSICAL TRISEMEzETRASEMEyPENTASEMEaGREEK MUSICAL LEIMMA"]),
    (0x1D2E0, ["aMAYAN NUMERAL ZEROoONEoTWOpHREEoFOURpIVEoSIXpEVENoEIGHToNINEoTENoELEVENoTWELVE",
      "pHIRTEENoFOURTEENpIFTEENoSIXTEENpEVENTEENoEIGHTEENoNINETEEN"]),
    (0x1D300, ["aMONOGRAM FOR EARTHaDIGRAM FOR HEAVENLY EARTHmUMAN EARTHlEARTHLY HEAVENuUMANq",
      "aTETRAGRAM FOR CENTREoFULL CIRCLEoMIREDoBARRIERoKEEPING SMALLoCONTRARIETYoASCENToOPPOSITION",
      "oBRANCHING OUToDEFECTIVENESS OR DISTORTIONpIVERGENCEoYOUTHFULNESSoINCREASEoPENETRATIONoREACH",
      "oCONTACToHOLDING BACKoWAITINGoFOLLOWINGoADVANCEoRELEASEqSISTANCEoEASEoJOYoCONTENTION",
      "oENDEAVOURoDUTIESoCHANGEoDECISIVENESSoBOLD RESOLUTIONoPACKINGoLEGIONoCLOSENESSoKINSHIP",
      "oGATHERINGoSTRENGTHoPURITYoFULLNESSoRESIDENCEoLAW OR MODELoRESPONSEoGOING TO MEEToENCOUNTERS",
      "oSTOVEoGREATNESSoENLARGEMENToPATTERNoRITUALoFLIGHToVASTNESS OR WASTINGoCONSTANCYoMEASURE",
      "oETERNITYoUNITYoDIMINISHMENToCLOSED MOUTHoGUARDEDNESSpATHERING INoMASSINGoACCUMULATION",
      "oEMBELLISHMENToDOUBToWATCHoSINKINGoINNERoDEPARTUREpARKENINGpIMMINGoEXHAUSTIONoSEVERANCE",
      "pTOPPAGEoHARDNESSoCOMPLETIONpLOSUREoFAILUREoAGGRAVATIONoCOMPLIANCEoON THE VERGEoDIFFICULTIES",
      "oLABOURINGoFOSTERING"]),
    (0x1D360, ["aCOUNTING ROD UNIT DIGIT ONEyTWOzHREEyFOURzIVEySIXzEVENyEIGHTyNINEnTENS DIGIT ONE",
      "yTWOzHREEyFOURzIVEySIXzEVENyEIGHTyNINEaIDEOGRAPHIC TALLY MARK ONExTWOyHREExFOURyIVE",
      "aTALLY MARK ONElFIVE"]),
    (0x1D400, ["aMATHEMATICAL BOLD CAPITAL A+aB+aC+aD+aE+aF+aG+aH+aI+aJ+aK+aL+aM+aN+aO+aP+aQ+aR+aS",
      "+aT+aU+aV+aW+aX+aY+aZsSMALL AyByCyDyEyFyGyHyIyJyKyLyMyNyOyPyQyRySyTyUyVyWyXyYyZ",
      "nITALIC CAPITAL A+cB+cC+cD+cE+cF+cG+cH+cI+cJ+cK+cL+cM+cN+cO+cP+cQ+cR+cS+cT+cU+cV+cW+cX+cY+cZ",
      "uSMALL A+aB+aC+aD+aE+aF+aG"]),
    (0x1D456, ["aMATHEMATICAL ITALIC SMALL I+aJ+aK+aL+aM+aN+aO+aP+aQ+aR+aS+aT+aU+aV+aW+aX+aY+aZ",
      "nBOLD ITALIC CAPITAL A+hB+hC+hD+hE+hF+hG+hH+hI+hJ+hK+hL+hM+hN+hO+hP+hQ+hR+hS+hT+hU+hV+hW+hX",
      "+hY+hZzSMALL A+fB+fC+fD+fE+fF+fG+fH+fI+fJ+fK+fL+fM+fN+fO+fP+fQ+fR+fS+fT+fU+fV+fW+fX+fY+fZ",
      "nSCRIPT CAPITAL A"]),
    (0x1D49E, ["aMATHEMATICAL SCRIPT CAPITAL C+cD"]),
    (0x1D4A2, ["aMATHEMATICAL SCRIPT CAPITAL G"]),
    (0x1D4A5, ["aMATHEMATICAL SCRIPT CAPITAL J+cK"]),
    (0x1D4A9, ["aMATHEMATICAL SCRIPT CAPITAL N+cO+cP+cQ"]),
    (0x1D4AE, ["aMATHEMATICAL SCRIPT CAPITAL S+cT+cU+cV+cW+cX+cY+cZuSMALL A+aB+aC+aD"]),
    (0x1D4BB, ["aMATHEMATICAL SCRIPT SMALL F"]),
    (0x1D4BD, ["aMATHEMATICAL SCRIPT SMALL H+aI+aJ+aK+aL+aM+aN"]),
    (0x1D4C5, ["aMATHEMATICAL SCRIPT SMALL P+aQ+aR+aS+aT+aU+aV+aW+aX+aY+aZnBOLD SCRIPT CAPITAL A+hB",
      "+hC+hD+hE+hF+hG+hH+hI+hJ+hK+hL+hM+hN+hO+hP+hQ+hR+hS+hT+hU+hV+hW+hX+hY+hZzSMALL A+fB+fC+fD+fE",
      "+fF+fG+fH+fI+fJ+fK+fL+fM+fN+fO+fP+fQ+fR+fS+fT+fU+fV+fW+fX+fY+fZnFRAKTUR CAPITAL A+dB"]),
    (0x1D507, ["aMATHEMATICAL FRAKTUR CAPITAL D+dE+dF+dG"]),
    (0x1D50D, ["aMATHEMATICAL FRAKTUR CAPITAL J+dK+dL+dM+dN+dO+dP+dQ"]),
    (0x1D516, ["aMATHEMATICAL FRAKTUR CAPITAL S+dT+dU+dV+dW+dX+dY"]),
    (0x1D51E, ["aMATHEMATICAL FRAKTUR SMALL A+bB+bC+bD+bE+bF+bG+bH+bI+bJ+bK+bL+bM+bN+bO+bP+bQ+bR+bS",
      "+bT+bU+bV+bW+bX+bY+bZnDOUBLE-STRUCK CAPITAL A+jB"]),
    (0x1D53B, ["aMATHEMATICAL DOUBLE-STRUCK CAPITAL D+jE+jF+jG"]),
    (0x1D540, ["aMATHEMATICAL DOUBLE-STRUCK CAPITAL I+jJ+jK+jL+jM"]),
    (0x1D546, ["aMATHEMATICAL DOUBLE-STRUCK CAPITAL O"]),
    (0x1D54A, ["aMATHEMATICAL DOUBLE-STRUCK CAPITAL S+jT+jU+jV+jW+jX+jY"]),
    (0x1D552, ["aMATHEMATICAL DOUBLE-STRUCK SMALL A+hB+hC+hD+hE+hF+hG+hH+hI+hJ+hK+hL+hM+hN+hO+hP+hQ",
      "+hR+hS+hT+hU+hV+hW+hX+hY+hZnBOLD FRAKTUR CAPITAL A+iB+iC+iD+iE+iF+iG+iH+iI+iJ+iK+iL+iM+iN+iO",
      "+iP+iQ+iR+iS+iT+iU+iV+iW+iX+iY+iZ+aSMALL A+gB+gC+gD+gE+gF+gG+gH+gI+gJ+gK+gL+gM+gN+gO+gP+gQ+gR",
      "+gS+gT+gU+gV+gW+gX+gY+gZnSANS-SERIF CAPITAL A+gB+gC+gD+gE+gF+gG+gH+gI+gJ+gK+gL+gM+gN+gO+gP+gQ",
      "+gR+gS+gT+gU+gV+gW+gX+gY+gZySMALL A+eB+eC+eD+eE+eF+eG+eH+eI+eJ+eK+eL+eM+eN+eO+eP+eQ+eR+eS+eT",
      "+eU+eV+eW+eX+eY+eZyBOLD CAPITAL A+lB+lC+lD+lE+lF+lG+lH+lI+lJ+lK+lL+lM+lN+lO+lP+lQ+lR+lS+lT+lU",
      "+lV+lW+lX+lY+lZ+dSMALL A+jB+jC+jD+jE+jF+jG+jH+jI+jJ+jK+jL+jM+jN+jO+jP+jQ+jR+jS+jT+jU+jV+jW+jX",
      "+jY+jZyITALIC CAPITAL A+nB+nC+nD+nE+nF+nG+nH+nI+nJ+nK+nL+nM+nN+nO+nP+nQ+nR+nS+nT+nU+nV+nW+nX",
      "+nY+nZ+fSMALL A+lB+lC+lD+lE+lF+lG+lH+lI+lJ+lK+lL+lM+lN+lO+lP+lQ+lR+lS+lT+lU+lV+lW+lX+lY+lZ",
      "yBOLD ITALIC CAPITAL A+sB+sC+sD+sE+sF+sG+sH+sI+sJ+sK+sL+sM+sN+sO+sP+sQ+sR+sS+sT+sU+sV+sW+sX",
      "+sY+sZ+kSMALL A+qB+qC+qD+qE+qF+qG+qH+qI+qJ+qK+qL+qM+qN+qO+qP+qQ+qR+qS+qT+qU+qV+qW+qX+qY+qZ",
      "nMONOSPACE CAPITAL A+fB+fC+fD+fE+fF+fG+fH+fI+fJ+fK+fL+fM+fN+fO+fP+fQ+fR+fS+fT+fU+fV+fW+fX+fY",
      "+fZxSMALL A+dB+dC+dD+dE+dF+dG+dH+dI+dJ+dK+dL+dM+dN+dO+dP+dQ+dR+dS+dT+dU+dV+dW+dX+dY+dZ",
      "nITALIC SMALL DOTLESS I+iJ"]),
    (0x1D6A8, ["aMATHEMATICAL BOLD CAPITAL ALPHA+aBETA+aGAMMA+aDELTA+aEPSILON+aZETA+aETA+aTHETA",
      "+aIOTA+aKAPPA+aLAMDA+aMU+aNU+aXI+aOMICRON+aPI+aRHO+aTHETA SYMBOL+aSIGMA+aTAU+aUPSILON+aPHI",
      "+aCHI+aPSI+aOMEGAsNABLAsSMALL ALPHAyBETAyGAMMAyDELTAyEPSILONyZETAyETAyTHETAyIOTAyKAPPAyLAMDA",
      "yMUyNUyXIyOMICRONyPIyRHOyFINAL SIGMAySIGMAyTAUyUPSILONyPHIyCHIyPSIyOMEGAsPARTIAL DIFFERENTIAL",
      "sEPSILON SYMBOLsTHETA SYMBOLsKAPPA SYMBOLsPHI SYMBOLsRHO SYMBOLsPI SYMBOL",
      "nITALIC CAPITAL ALPHA+cBETA+cGAMMA+cDELTA+cEPSILON+cZETA+cETA+cTHETA+cIOTA+cKAPPA+cLAMDA+cMU",
      "+cNU+cXI+cOMICRON+cPI+cRHO+cTHETA SYMBOL+cSIGMA+cTAU+cUPSILON+cPHI+cCHI+cPSI+cOMEGAuNABLA",
      "uSMALL ALPHA+aBETA+aGAMMA+aDELTA+aEPSILON+aZETA+aETA+aTHETA+aIOTA+aKAPPA+aLAMDA+aMU+aNU+aXI",
      "+aOMICRON+aPI+aRHO+aFINAL SIGMA+aSIGMA+aTAU+aUPSILON+aPHI+aCHI+aPSI+aOMEGA",
      "uPARTIAL DIFFERENTIALuEPSILON SYMBOLuTHETA SYMBOLuKAPPA SYMBOLuPHI SYMBOLuRHO SYMBOL",
      "uPI SYMBOLnBOLD ITALIC CAPITAL ALPHA+hBETA+hGAMMA+hDELTA+hEPSILON+hZETA+hETA+hTHETA+hIOTA",
      "+hKAPPA+hLAMDA+hMU+hNU+hXI+hOMICRON+hPI+hRHO+hTHETA SYMBOL+hSIGMA+hTAU+hUPSILON+hPHI+hCHI",
      "+hPSI+hOMEGAzNABLAzSMALL ALPHA+fBETA+fGAMMA+fDELTA+fEPSILON+fZETA+fETA+fTHETA+fIOTA+fKAPPA",
      "+fLAMDA+fMU+fNU+fXI+fOMICRON+fPI+fRHO+fFINAL SIGMA+fSIGMA+fTAU+fUPSILON+fPHI+fCHI+fPSI+fOMEGA",
      "zPARTIAL DIFFERENTIALzEPSILON SYMBOLzTHETA SYMBOLzKAPPA SYMBOLzPHI SYMBOLzRHO SYMBOL",
      "zPI SYMBOLnSANS-SERIF BOLD CAPITAL ALPHA+lBETA+lGAMMA+lDELTA+lEPSILON+lZETA+lETA+lTHETA+lIOTA",
      "+lKAPPA+lLAMDA+lMU+lNU+lXI+lOMICRON+lPI+lRHO+lTHETA SYMBOL+lSIGMA+lTAU+lUPSILON+lPHI+lCHI",
      "+lPSI+lOMEGA+dNABLA+dSMALL ALPHA+jBETA+jGAMMA+jDELTA+jEPSILON+jZETA+jETA+jTHETA+jIOTA+jKAPPA",
      "+jLAMDA+jMU+jNU+jXI+jOMICRON+jPI+jRHO+jFINAL SIGMA+jSIGMA+jTAU+jUPSILON+jPHI+jCHI+jPSI+jOMEGA",
      "+dPARTIAL DIFFERENTIAL+dEPSILON SYMBOL+dTHETA SYMBOL+dKAPPA SYMBOL+dPHI SYMBOL+dRHO SYMBOL",
      "+dPI SYMBOL+dITALIC CAPITAL ALPHA+sBETA+sGAMMA+sDELTA+sEPSILON+sZETA+sETA+sTHETA+sIOTA+sKAPPA",
      "+sLAMDA+sMU+sNU+sXI+sOMICRON+sPI+sRHO+sTHETA SYMBOL+sSIGMA+sTAU+sUPSILON+sPHI+sCHI+sPSI",
      "+sOMEGA+kNABLA+kSMALL ALPHA+qBETA+qGAMMA+qDELTA+qEPSILON+qZETA+qETA+qTHETA+qIOTA+qKAPPA",
      "+qLAMDA+qMU+qNU+qXI+qOMICRON+qPI+qRHO+qFINAL SIGMA+qSIGMA+qTAU+qUPSILON+qPHI+qCHI+qPSI+qOMEGA",
      "+kPARTIAL DIFFERENTIAL+kEPSILON SYMBOL+kTHETA SYMBOL+kKAPPA SYMBOL+kPHI SYMBOL+kRHO SYMBOL",
      "+kPI SYMBOLnBOLD CAPITAL DIGAMMAsSMALL DIGAMMA"]),
    (0x1D7CE, ["aMATHEMATICAL BOLD DIGIT ZEROyONEyTWOzHREEyFOURzIVEySIXzEVENyEIGHTyNINE",
      "nDOUBLE-STRUCK DIGIT ZERO+hONE+hTWO+iHREE+hFOUR+iIVE+hSIX+iEVEN+hEIGHT+hNINE",
      "nSANS-SERIF DIGIT ZERO+eONE+eTWO+fHREE+eFOUR+fIVE+eSIX+fEVEN+eEIGHT+eNINEyBOLD DIGIT ZERO",
      "+jONE+jTWO+kHREE+jFOUR+kIVE+jSIX+kEVEN+jEIGHT+jNINEnMONOSPACE DIGIT ZERO+dONE+dTWO+eHREE",
      "+dFOUR+eIVE+dSIX+eEVEN+dEIGHT+dNINEaSIGNWRITING HAND-FIST INDEXrCIRCLE INDEXsUP INDEX",
      "rOVAL INDEXrHINGE INDEXrANGLE INDEXrFIST INDEX BENTrCIRCLE INDEX BENT",
      "rFIST THUMB UNDER INDEX BENTwINDEX RAISED KNUCKLE+cCUPPED+cHINGED+i LOWrCIRCLE INDEX HINGE",
      "rFIST INDEX MIDDLErCIRCLE INDEX MIDDLErFIST INDEX MIDDLE BENT+jRAISED KNUCKLES+jHINGED",
      "+cUP MIDDLE HINGED+cHINGED MIDDLE UP+cMIDDLE CONJOINED+s INDEX BENT+tMIDDLE BENT+tCUPPED",
      "+tHINGED+kROSSEDrCIRCLE INDEX MIDDLE CROSSEDrFIST MIDDLE BENT OVER INDEX",
      "wINDEX BENT OVER MIDDLE+cMIDDLE THUMBrCIRCLE INDEX MIDDLE THUMB",
      "rFIST INDEX MIDDLE STRAIGHT THUMB BENT+jBENT THUMB STRAIGHT+jTHUMB BENT",
      "+jHINGED SPREAD THUMB SIDE+cUP MIDDLE HINGED THUMB SIDE+zCONJOINED",
      "+cHINGED MIDDLE UP THUMB SIDE+cMIDDLE UP SPREAD THUMB FORWARD+jTHUMB CUPPED+qIRCLED+pHOOKED",
      "+qINGEDwTHUMB BETWEEN INDEX MIDDLE STRAIGHTwINDEX MIDDLE CONJOINED THUMB SIDE++d CONJOINED",
      "++eBENTwMIDDLE THUMB HOOKED INDEX UPwINDEX THUMB HOOKED MIDDLE UP",
      "+cMIDDLE CONJOINED HINGED THUMB SIDE+kROSSED THUMB SIDE+kONJOINED THUMB FORWARD",
      "+tCUPPED THUMB FORWARDwMIDDLE THUMB CUPPED INDEX UPwINDEX THUMB CUPPED MIDDLE UP",
      "wMIDDLE THUMB CIRCLED INDEX UP+xHINGEDwINDEX THUMB ANGLED OUT MIDDLE UP+pIN MIDDLE UP",
      "+iCIRCLED MIDDLE UP+cMIDDLE THUMB CONJOINED HINGED+pANGLED OUT+v",
      "wMIDDLE THUMB ANGLED OUT INDEX UP++aCROSSED+qINDEX UPwINDEX THUMB HOOKED MIDDLE HINGED",
      "sLAT FOUR FINGERS+i BENT+jHINGED+jCONJOINED+s SPLITrCLAW FOUR FINGERS CONJOINED",
      "rFIST FOUR FINGERS CONJOINED BENTrHINGE FOUR FINGERS CONJOINEDrFLAT FIVE FINGERS SPREAD",
      "wHEEL FIVE FINGERS SPREADwFIVE FINGERS SPREAD FOUR BENTwHEEL FIVE FINGERS SPREAD FOUR BENT",
      "wFIVE FINGERS SPREAD BENTwHEEL FIVE FINGERS SPREAD BENTwFIVE FINGERS SPREAD THUMB FORWARD",
      "rCUP FIVE FINGERS SPREAD+o OPENrHINGE FIVE FINGERS SPREAD OPENrOVAL FIVE FINGERS SPREAD",
      "rFLAT FIVE FINGERS SPREAD HINGED+w THUMB SIDE+xNO THUMBvv BETWEEN PALM FACINGSwHEEL",
      "wTHUMB SIDEwHEEL THUMB SIDEwTHUMB BENT+cFORWARDwSPLIT INDEX THUMB SIDE+cCENTRE+i THUMB SIDE",
      "+t BENT+cLITTLErCLAWv THUMB SIDEwNO THUMBwTHUMB FORWARDrHOOK CURLICUEvrCUP OPENu",
      "u OPEN THUMB SIDEvTHUMB SIDEvOPEN NO THUMBvNO THUMBvOPEN THUMB FORWARDvTHUMB FORWARD",
      "tRLICUE OPENzsIRCLErOVALv THUMB SIDEwNO THUMBwTHUMB FORWARDrHINGE OPEN+b THUMB FORWARDw",
      "w SMALLxOPEN THUMB SIDExTHUMB SIDExOPEN NO THUMBxNO THUMBxTHUMB SIDE TOUCHING INDEX",
      "+dBETWEEN MIDDLE RINGrANGLErFIST INDEX MIDDLE RINGrCIRCLE INDEX MIDDLE RING",
      "rHINGE INDEX MIDDLE RINGrANGLE INDEX MIDDLE RINGrHINGE LITTLErFIST INDEX MIDDLE RING BENT",
      "+oCONJOINEDrHINGE INDEX MIDDLE RING CONJOINEDrFIST LITTLE DOWN+h RIPPLE STRAIGHT+pCURVED",
      "+iOTHERS CIRCLED+dUPwTHUMB UNDER LITTLE UPrCIRCLE LITTLE UPrOVAL LITTLE UPrANGLE LITTLE UP",
      "rFIST LITTLE RAISED KNUCKLE+dBENT+dTOUCHES THUMB+eHUMBrHINGE LITTLE THUMB",
      "rFIST LITTLE INDEX THUMBrHINGE LITTLE INDEX THUMBrANGLE LITTLE INDEX THUMB INDEX THUMB OUT++b",
      "rFIST LITTLE INDEXrCIRCLE LITTLE INDEXrHINGE LITTLE INDEXrANGLE LITTLE INDEX",
      "rFIST INDEX MIDDLE LITTLErCIRCLE INDEX MIDDLE LITTLErHINGE INDEX MIDDLE LITTLExRING",
      "rANGLE INDEX MIDDLE LITTLErFIST INDEX MIDDLE CROSS LITTLErCIRCLE INDEX MIDDLE CROSS LITTLE",
      "rFIST RING DOWNrHINGE RING DOWN INDEX THUMB HOOK MIDDLE",
      "rANGLE RING DOWN MIDDLE THUMB INDEX CROSSrFIST RING UP+bRAISED KNUCKLE+bLITTLE",
      "rCIRCLE RING LITTLErOVAL RING LITTLErANGLE RING LITTLErFIST RING MIDDLE+h CONJOINED",
      "+iRAISED KNUCKLES+bINDEX+bTHUMBrHOOK RING THUMBrFIST INDEX RING LITTLE",
      "rCIRCLE INDEX RING LITTLEsURLICUE INDEX RING LITTLE ONrHOOK INDEX RING LITTLE OUT+oIN+oUNDER",
      "rCUP INDEX RING LITTLErHINGE INDEX RING LITTLErANGLE INDEX RING LITTLE OUT+orFIST MIDDLE DOWN",
      "rHINGE MIDDLErFIST MIDDLE UPrCIRCLE MIDDLE UPrFIST MIDDLE RAISED KNUCKLE+dUP THUMB SIDE",
      "rHOOK MIDDLE THUMBrFIST MIDDLE THUMB LITTLE+dLITTLE+dRING LITTLErCIRCLE MIDDLE RING LITTLE",
      "sURLICUE MIDDLE RING LITTLE ONtP MIDDLE RING LITTLErHINGE MIDDLE RING LITTLE",
      "rANGLE MIDDLE RING LITTLE OUT+qIN+prCIRCLE MIDDLE RING LITTLE BENT",
      "sLAW MIDDLE RING LITTLE CONJOINED+y SIDErHOOK MIDDLE RING LITTLE CONJOINED OUT+zIN+y",
      "sINGE INDEX HINGEDrFIST INDEX THUMB SIDErHINGE INDEX THUMB SIDE",
      "rFIST INDEX THUMB SIDE THUMB DIAGONAL+tCONJOINED+tBENT+nINDEX BENT+nBOTH BENT+nINDEX HINGE",
      "+iFORWARD INDEX STRAIGHT+wBENT+iHOOK+iCURLICUE+lVE THUMB INSIDE",
      "rCLAW INDEX THUMB CURVE THUMB INSIDErFIST INDEX THUMB CURVE THUMB UNDER+jIRCLE",
      "rCUP INDEX THUMB+g OPENrHINGE INDEX THUMB OPEN+jLARGE+i+i SMALLrANGLE INDEX THUMB OUT+jIN+i",
      "rFIST THUMB+b HEEL+cSIDE DIAGONAL+hCONJOINED+hBENT+cFORWARD+cBETWEEN INDEX MIDDLE",
      "+kMIDDLE RING+kRING LITTLE+cUNDER TWO FINGERS+cOVER TWO FINGERS+cUNDER THREE FINGERS",
      "+iFOUR FINGERS+cOVER FOUR RAISED KNUCKLESvv HEELmTOUCH SINGLEsMULTIPLEsBETWEENmGRASP SINGLE",
      "sMULTIPLEsBETWEENmSTRIKE SINGLEtMULTIPLEtBETWEENmBRUSH SINGLEsMULTIPLEsBETWEENmRUB SINGLE",
      "qMULTIPLEqBETWEENmSURFACE SYMBOLSuBETWEENnQUEEZE LARGE SINGLEuSMALL SINGLEuLARGE MULTIPLE",
      "uSMALL MULTIPLEvEQUENTIALmFLICK LARGE SINGLEsSMALL SINGLEsLARGE MULTIPLEsSMALL MULTIPLE",
      "tEQUENTIALmSQUEEZE FLICK ALTERNATINGmMOVEMENT-HINGE UP DOWN LARGE+jSMALL+eSEQUENTIAL",
      "+bDOWN SEQUENTIAL+bUP DOWN ALTERNATING LARGE+vSMALL+bSIDE TO SIDE SCISSORS",
      "vWALLPLANE FINGER CONTACTvFLOORPLANE FINGER CONTACTvWALLPLANE SINGLE STRAIGHT SMALL+vMEDIUM",
      "+vLARGE++aST+mWRIST FLEX+fDOUBLE STRAIGHT+mWRIST FLEX+mALTERNATING+x WRIST FLEX+fCROSS",
      "+fTRIPLE STRAIGHT MOVEMENT+mWRIST FLEX+mALTERNATING+x WRIST FLEX+fBEND SMALL+kMEDIUM+kLARGE",
      "+fCORNER SMALL+mMEDIUM+mLARGE+mROTATION+gHECK SMALL+lMEDIUM+lLARGE+fBOX SMALL+jMEDIUM+jLARGE",
      "+fZIGZAG SMALL+mMEDIUM+mLARGE+fPEAKS SMALL+lMEDIUM+lLARGE",
      "mTRAVEL-WALLPLANE ROTATION-WALLPLANE SINGLE+wDOUBLE+wALTERNATING+mFLOORPLANE SINGLE+xDOUBLE",
      "+xALTERNATING+dSHAKING+dARM SPIRAL SINGLE+oDOUBLE+oTRIPLEmMOVEMENT-DIAGONAL AWAY SMALL",
      "+jMEDIUM+jLARGE+oST+eTOWARDS SMALL+mMEDIUM+mLARGE+rST+eBETWEEN AWAY SMALL+rMEDIUM+rLARGE+wST",
      "+mTOWARDS SMALL+uMEDIUM+uLARGE+zSTvFLOORPLANE SINGLE STRAIGHT SMALL+wMEDIUM+wLARGE++bST",
      "+nWRIST FLEX+gDOUBLE STRAIGHT+nWRIST FLEX+nALTERNATING+y WRIST FLEX+gCROSS",
      "+gTRIPLE STRAIGHT MOVEMENT+nWRIST FLEX+nALTERNATING MOVEMENT+zWRIST FLEX+gBEND+gCORNER SMALL",
      "+nMEDIUM+nLARGE+hHECK+gBOX SMALL+kMEDIUM+kLARGE+gZIGZAG SMALL+nMEDIUM+nLARGE+gPEAKS SMALL",
      "+mMEDIUM+mLARGEmTRAVEL-FLOORPLANE ROTATION-FLOORPLANE SINGLE+yDOUBLE+yALTERNATING",
      "+nWALLPLANE SINGLE+xDOUBLE+xALTERNATING+eSHAKINGmMOVEMENT-WALLPLANE CURVE QUARTER SMALL",
      "+tMEDIUM+tLARGE+yST+lHALF-CIRCLE SMALL+xMEDIUM+xLARGE++cST+lTHREE-QUARTER CIRCLE SMALL",
      "++gMEDIUM+fHUMP SMALL+kMEDIUM+kLARGE+fLOOP SMALL+kMEDIUM+kLARGE+kSMALL DOUBLE",
      "+fWAVE CURVE DOUBLE SMALL+xMEDIUM+xLARGE+qTRIPLE SMALL+xMEDIUM+xLARGE+fCURVE THEN STRAIGHT",
      "+kD CROSS SMALL+sMEDIUMmROTATION-WALLPLANE SINGLE+fDOUBLE+fALTERNATE",
      "mMOVEMENT-WALLPLANE SHAKING+fCURVE HITTING FRONT WALL+fHUMP HITTING FRONT WALL",
      "+fLOOP HITTING FRONT WALL+fWAVE HITTING FRONT WALL",
      "mROTATION-WALLPLANE SINGLE HITTING FRONT WALL+fDOUBLE HITTING FRONT WALL",
      "+fALTERNATING HITTING FRONT WALLmMOVEMENT-WALLPLANE CURVE HITTING CHEST+fHUMP HITTING CHEST",
      "+fLOOP HITTING CHEST+fWAVE HITTING CHESTmROTATION-WALLPLANE SINGLE HITTING CHEST",
      "+fDOUBLE HITTING CHEST+fALTERNATING HITTING CHESTmMOVEMENT-WALLPLANE WAVE DIAGONAL PATH SMALL",
      "+yMEDIUM+yLARGEvFLOORPLANE CURVE HITTING CEILING SMALL++cLARGE",
      "+gHUMP HITTING CEILING SMALL DOUBLE++bLARGE DOUBLE++bSMALL TRIPLE++bLARGE TRIPLE",
      "+gLOOP HITTING CEILING SMALL SINGLE++bLARGE SINGLE++bSMALL DOUBLE++bLARGE DOUBLE",
      "+gWAVE HITTING CEILING SMALL++bLARGEmROTATION-FLOORPLANE SINGLE HITTING CEILING",
      "+gDOUBLE HITTING CEILING+gALTERNATING HITTING CEILING",
      "mMOVEMENT-FLOORPLANE CURVE HITTING FLOOR SMALL++aLARGE+gHUMP HITTING FLOOR SMALL DOUBLE",
      "+zLARGE DOUBLE+zTRIPLE SMALL TRIPLE++gLARGE TRIPLE+gLOOP HITTING FLOOR SMALL SINGLE",
      "+zLARGE SINGLE+zSMALL DOUBLE+zLARGE DOUBLE+gWAVE HITTING FLOOR SMALL+zLARGE",
      "mROTATION-FLOORPLANE SINGLE HITTING FLOOR+gDOUBLE HITTING FLOOR+gALTERNATING HITTING FLOOR",
      "mMOVEMENT-FLOORPLANE CURVE SMALL+mMEDIUM+mLARGE+rST+mCOMBINED+gHUMP SMALL+gLOOP SMALL",
      "+gWAVE SNAKE+mMALL+lLARGEmROTATION-FLOORPLANE SINGLE+gDOUBLE+gALTERNATING",
      "mMOVEMENT-FLOORPLANE SHAKING PARALLELvWALLPLANE ARM CIRCLE SMALL SINGLE+qMEDIUM SINGLE",
      "+qSMALL DOUBLE+qMEDIUM DOUBLEvFLOORPLANE ARM CIRCLE HITTING WALL SMALL SINGLE++eMEDIUM SINGLE",
      "++eLARGE SINGLE++eSMALL DOUBLE++eMEDIUM DOUBLE++eLARGE DOUBLE",
      "vWALLPLANE WRIST CIRCLE FRONT SINGLE+yDOUBLEvFLOORPLANE WRIST CIRCLE HITTING WALL SINGLE",
      "++gDOUBLEvWALLPLANE FINGER CIRCLES SINGLE+uDOUBLE",
      "vFLOORPLANE FINGER CIRCLES HITTING WALL SINGLE++iDOUBLEmDYNAMIC ARROWHEAD SMALL+eLARGEuFAST",
      "uSLOWuTENSEuRELAXEDuSIMULTANEOUS+g ALTERNATINGuEVERY OTHER TIMEuGRADUALmHEADq RIM",
      "rMOVEMENT-WALLPLANE STRAIGHT+kTILT+aFLOORPLANE STRAIGHT+aWALLPLANE CURVE+aFLOORPLANE CURVE",
      "z CIRCLEmFACE DIRECTION POSITION NOSE FORWARD TILTING+pUP OR DOWN+z TILTING",
      "mEYEBROWS STRAIGHT UP+eNEUTRAL+eDOWNmDREAMY EYEBROWS NEUTRAL DOWN+cDOWN NEUTRAL+cUP NEUTRAL",
      "+cNEUTRAL UPmFOREHEAD NEUTRALvCONTACTvWRINKLEDmEYES OPENrSQUEEZEDrCLOSEDp BLINK SINGLE",
      "wMULTIPLEpS HALF OPENrWIDE OPENrHALF CLOSEDrWIDENING MOVEMENTp WINKpLASHES UPwDOWNwFLUTTERING",
      "pGAZE-WALLPLANE STRAIGHT+m DOUBLE+nALTERNATINGuFLOORPLANE STRAIGHT+n DOUBLE+oALTERNATING",
      "uWALLPLANE CURVEDuFLOORPLANE CURVEDuWALLPLANE CIRCLINGmCHEEKS PUFFEDtNEUTRALtSUCKED",
      "mTENSE CHEEKS HIGHzMIDDLEzLOWmEARSmNOSE NEUTRALrCONTACTrWRINKLESsIGGLESmAIR BLOWING OUT",
      "qSUCKING INqBLOW SMALL ROTATIONSqSUCK SMALL ROTATIONSmBREATH INHALEtEXHALE",
      "mMOUTH CLOSED NEUTRALzFORWARDzCONTACTsSMILEx WRINKLEDyOPENsFROWNx WRINKLEDyOPENsOPEN CIRCLE",
      "xFORWARDxWRINKLEDxOVAL+b WRINKLED+cYAWNxRECTANGLE+g WRINKLED+hYAWNsKISSw FORWARDxWRINKLED",
      "sTENSEx FORWARDySUCKEDmLIPS PRESSED TOGETHERp LOWER OVER UPPERqUPPER OVER LOWERmMOUTH CORNERS",
      "sWRINKLES SINGLE+bDOUBLEmTONGUE STICKING OUT FARtLICKING LIPStTIP BETWEEN LIPS",
      "xTOUCHING INSIDE MOUTHtINSIDE MOUTH RELAXEDtMOVES AGAINST CHEEKtCENTRE STICKING OUT",
      "+aINSIDE MOUTHnEETHr MOVEMENTsON TONGUE+b MOVEMENTvLIPSz MOVEMENTsBITE LIPS",
      "mMOVEMENT-WALLPLANE JAWvFLOORPLANE JAWmNECKmHAIRmEXCITEMENTmSHOULDER HIP SPINEzPOSITIONS",
      "mWALLPLANE SHOULDER HIP MOVEmFLOORPLANE SHOULDER HIP MOVEmSHOULDER TILTING FROM WAIST",
      "mTORSO-WALLPLANE STRAIGHT STRETCH+cCURVED BENDsFLOORPLANE TWISTING",
      "mUPPER BODY TILTING FROM HIP JOINTSmLIMB COMBINATIONrLENGTH-1y2y3y4y5y6y7mFINGER",
      "mLOCATION-WALLPLANE SPACEvFLOORPLANE SPACEu HEIGHTvWIDTHvDEPTHvHEAD NECKvTORSOvLIMBS DIGITS",
      "mCOMMAmFULL STOPmSEMICOLONmCOLONmPARENTHESIS"]),
    (0x1DA9B, ["aSIGNWRITING FILL MODIFIER-2+a3+a4+a5+a6"]),
    (0x1DAA1, ["aSIGNWRITING ROTATION MODIFIER-2+e3+e4+e5+e6+e7+e8+e9+e10+f1+f2+f3+f4+f5+f6"]),
    (0x1DF00, ["aLATIN SMALL LETTER FENG DIGRAPH WITH TRILLtREVERSED SCRIPT G",
      "gLETTER SMALL CAPITAL TURNED GgSMALL LETTER REVERSED KgLETTER SMALL CAPITAL L WITH BELT",
      "gSMALL LETTER LEZH WITH RETROFLEX HOOKtTURNED Y WITH BELTtREVERSED ENG",
      "tTURNED R WITH LONG LEG AND RETROFLEX HOOKu WITH HOOK AND RETROFLEX HOOK",
      "gLETTER RETROFLEX CLICK WITH RETROFLEX HOOKgSMALL LETTER ESH WITH DOUBLE BAR+m AND CURL",
      "tTURNED T WITH CURLgLETTER INVERTED GLOTTAL STOP WITH CURLnSTRETCHED C WITH CURL",
      "oMALL CAPITAL TURNED KgSMALL LETTER L WITH FISHHOOKtDEZH DIGRAPH WITH PALATAL HOOK",
      "tL WITH BELT AND PALATAL HOOKtENG WITH PALATAL HOOKtTURNED R WITH PALATAL HOOK",
      "tR WITH FISHHOOK AND PALATAL HOOKtTESH DIGRAPH WITH PALATAL HOOKtEZH WITH PALATAL HOOK",
      "tDEZH DIGRAPH WITH RETROFLEX HOOKtI WITH STROKE AND RETROFLEX HOOKtO WITH RETROFLEX HOOK",
      "tTESH DIGRAPH WITH RETROFLEX HOOKtC WITH RETROFLEX HOOKtS WITH CURL"]),
    (0x1E000, ["aCOMBINING GLAGOLITIC LETTER AZU+cBUKY+cVEDE+cGLAGOLI+cDOBRO+cYESTU+cZHIVETE"]),
    (0x1E008, ["aCOMBINING GLAGOLITIC LETTER ZEMLJA+cIZHE+dNITIAL IZHE+d+cDJERVI+cKAKO+cLJUDIJE",
      "+cMYSLITE+cNASHI+cONU+cPOKOJI+cRITSI+cSLOVO+cTVRIDO+cUKU+cFRITU+cHERU"]),
    (0x1E01B, ["aCOMBINING GLAGOLITIC LETTER SHTA+cTSI+cCHRIVI+cSHA+cYERU+fI+dATI"]),
    (0x1E023, ["aCOMBINING GLAGOLITIC LETTER YU+cSMALL YUS"]),
    (0x1E026, ["aCOMBINING GLAGOLITIC LETTER YO+cIOTATED SMALL YUS+cBIG YUS+cIOTATED BIG YUS+cFITA"]),
    (0x1E100, ["aNYIAKENG PUACHUE HMONG LETTER MA+eTSA+eNTA+eTA+eHA+eNA+eXA+eNKA+eCA+eLA+eSA+eZA",
      "+eNCA+fTSA+eKA+eDA+eNYA+fRA+eVA+eNTXA+eTXA+eFA+eRA+eQA+eYA+eNQA+ePA+eXYA+eNPA+eDLA+eNPLA+eHAH",
      "+eMLA+ePLA+eGA+eRRA+eA+fA+eI+eU+eO+fO+eE+fE+eW"]),
    (0x1E130, ["aNYIAKENG PUACHUE HMONG TONE-B+cM+cJ+cV+cS+cG+cDxSIGN FOR PERSON+gTHING+gLOCATION",
      "+gANIMAL+gINVERTEBRATE+cXW XWyYLLABLE LENGTHENER"]),
    (0x1E140, ["aNYIAKENG PUACHUE HMONG DIGIT ZERO+dONE+dTWO+eHREE+dFOUR+eIVE+dSIX+eEVEN+dEIGHT",
      "+dNINE"]),
    (0x1E14E, ["aNYIAKENG PUACHUE HMONG LOGOGRAM NYAJxCIRCLED CA"]),
    (0x1E290, ["aTOTO LETTER PAmBAmTAmDAmKAmGAmMAmNAnGAmSAmCHAmYAmWAmJAmHAmRAmLAmImBREATHY ImIU",
      "mBREATHY IUmUmEmBREATHY EmEOmBREATHY EOmOmAEmBREATHY AEmAfSIGN RISING TONE"]),
    (0x1E2C0, ["aWANCHO LETTER AApoBAoCAoDAoGAoYAoPHAoLAoNAoPAoTApHAoFAoSApHAoJAoZAoWAoVAoKAoOoAUoRA",
      "oMAoKHAoHAoEoIoNGAoUoLLHAoTSApRAoONGoAANGpNGoINGoONoENoAANoNYAoUENoYIHhTONE TUPpNImKOIpNI",
      "hDIGIT ZEROnONEnTWOoHREEnFOURoIVEnSIXoEVENnEIGHTnNINE"]),
    (0x1E2FF, ["aWANCHO NGUN SIGN"]),
    (0x1E7E0, ["aETHIOPIC SYLLABLE HHYAvUvIvAAvEEwvO"]),
    (0x1E7E8, ["aETHIOPIC SYLLABLE GURAGE HHWAsHHWIvEEw"]),
    (0x1E7ED, ["aETHIOPIC SYLLABLE GURAGE MWI+bEE"]),
    (0x1E7F0, ["aETHIOPIC SYLLABLE GURAGE QWI+bEE+czBWI+bEEzKWI+bEE+czGWI+bEE+czFWI+bEEzPWI+bEE"]),
    (0x1E800, ["aMENDE KIKAKUI SYLLABLE M001 KI+a2 KA+a3 KUz65 KEEz95 KEz76 KOOz48 KOy179 KUAy004 WI",
      "+a5 WA+a6 WUy126 WEEz18 WE+a4 WOOy045 WOy194 WUIz43 WEIy061 WVIz49 WVAy139 WVEy007 MIN+a8 MAN",
      "+a9 MUNz59 MENz94 MONy154 MUANz89 MUENy010 BI+a1 BA+a2 BUy150 BEEy097 BEy103 BOOz38 BOy013 I",
      "+a4 A+a5 Uy163 EEz00 Ez65 OOz47 Oz37 EI+a1 IN+a5 INz95 ANz78 ENy019 SIz20 SA+a1 SUy162 SEE",
      "z16 SEz36 SOOy079 SOy196 SIAy025 LI+a6 LA+a7 LUz84 LEEz73 LEz54 LOOy153 LOz10 LONG LEy016 DI",
      "+a7 DA+a8 DUz89 DEEy180 DOO+a1 DOy022 TI+a3 TA+a4 TUz91 TEEz55 TEy104 TOOy069 TOz28 JI+a9 JA",
      "z30 JUy157 JEEz13 JEz60 JOOy063 JOy175 LONG JOy031 YI+a2 YA+a3 YUy109 YEEy080 YEy141 YOO",
      "z21 YOy034 FI+a5 FA+a6 FUz78 FEE+a5 FEy133 FOOy088 FOy197 FUAz01 FANy037 NIN+a8 NAN+a9 NUN",
      "y117 NENz69 NONz76 HIy041 HAy186 HUy040 HEEz96 HEz42 HOOy140 HOy083 HEEIy128 HOOUy053 HIN",
      "y130 HANy087 HUNz52 HENy193 HONy046 HUANz90 NGGIz43 NGGAz82 NGGUy115 NGGEEz46 NGGEz56 NGGOO",
      "z20 NGGOz59 NGGAAz27 NGGUAy086 LONG NGGEy106 LONG NGGOOz83 LONG NGGOz55 GIz11 GAz68 GUz90 GEE",
      "z66 GUEI+a7 GUANz84 NGENy057 NGONy177 NGUANy068 PIz99 PAz50 PUz81 PEEz51 PEy102 POOy066 PO",
      "y145 MBIy062 MBAy122 MBUy047 MBEEy188 MBEEy072 MBEy172 MBOO+a4 MBOz87 MBUUz61 LONG MBE",
      "z05 LONG MBOOz42 LONG MBOz32 KPIy092 KPAz74 KPUz44 KPEEy108 KPEz12 KPOOz58 KPOz24 GBIy056 GBA",
      "y148 GBUy093 GBEEy107 GBEy071 GBOO+a0 GBOy171 RAz23 NDI+a9 NDA+a5 NDUz91 NDEEz19 NDEy067 NDOO",
      "+a4 NDOy152 NJAz92 NJUz49 NJEEz34 NJOOz82 VI+a5 VAz51 VUz73 VEEy085 VEy144 VOOy077 VO",
      "y164 NYINy058 NYANy170 NYUNy098 NYENz60 NYON"]),
    (0x1E8C7, ["aMENDE KIKAKUI DIGIT ONEuTWOvHREEuFOURvIVEuSIXvEVENuEIGHTuNINE",
      "oCOMBINING NUMBER TEENS+hNS+fHUNDREDS+fTHOUSANDS+gEN THOUSANDS+fHUNDRED THOUSANDS+fMILLIONS"]),
    (0x1E900, ["aADLAM CAPITAL LETTER ALIFvDAALIvLAAMvMIIMvBAvSINNYIIYHEvPEvBHEvRAvEvFAvIvOvDHAvYHE",
      "vWAWvNUNvKAFvYAvUvJIIMvCHIvHAvQAAFvGAvNYAvTUvNHAvVAvKHAvGBEvZALvKPOvSHAgSMALL LETTER ALIF",
      "tDAALItLAAMtMIIMtBAtSINNYIIYHEtPEtBHEtRAtEtFAtItOtDHAtYHEtWAWtNUNtKAFtYAtUtJIIMtCHItHAtQAAF",
      "tGAtNYAtTUtNHAtVAtKHAtGBEtZALtKPOtSHAgALIF LENGTHENERgVOWEL LENGTHENERgGEMINATION MARKgHAMZA",
      "gCONSONANT MODIFIERgGEMINATE CONSONANT MODIFIERgNUKTAhASALIZATION MARK"]),
    (0x1E950, ["aADLAM DIGIT ZEROmONEmTWOnHREEmFOURnIVEmSIXnEVENmEIGHTmNINE"]),
    (0x1E95E, ["aADLAM INITIAL EXCLAMATION MARKoQUESTION MARK"]),
    (0x1EC71, ["aINDIC SIYAQ NUMBER ONEtTWOuHREEtFOURuIVEtSIXuEVENtEIGHTtNINEtTENuWENTYuHIRTYtFORTY",
      "uIFTYtSIXTYuEVENTYtEIGHTYtNINETYtONE HUNDREDtTWO HUNDREDuHREE HUNDREDtFOUR HUNDRED",
      "uIVE HUNDREDtSIX HUNDREDuEVEN HUNDREDtEIGHT HUNDREDtNINE HUNDREDtONE THOUSANDtTWO THOUSAND",
      "uHREE THOUSANDtFOUR THOUSANDuIVE THOUSANDtSIX THOUSANDuEVEN THOUSANDtEIGHT THOUSAND",
      "tNINE THOUSANDtTEN THOUSANDuWENTY THOUSANDuHIRTY THOUSANDtFORTY THOUSANDuIFTY THOUSAND",
      "tSIXTY THOUSANDuEVENTY THOUSANDtEIGHTY THOUSANDtNINETY THOUSANDtLAKHxANmLAKH MARK",
      "mNUMBER KARORyANtPREFIXED ONE+cTWO+dHREE+cFOUR+dIVE+cSIX+dEVEN+cEIGHT+cNINEmPLACEHOLDER",
      "mFRACTION ONE QUARTERzHALFvTHREE QUARTERSmRUPEE MARKmNUMBER ALTERNATE ONE+dTWO+eEN THOUSAND",
      "mALTERNATE LAKH MARK"]),
    (0x1ED01, ["aOTTOMAN SIYAQ NUMBER ONEvTWOwHREEvFOURwIVEvSIXwEVENvEIGHTvNINEvTENwWENTYwHIRTY",
      "vFORTYwIFTYvSIXTYwEVENTYvEIGHTYvNINETYvONE HUNDREDvTWO HUNDREDwHREE HUNDREDvFOUR HUNDRED",
      "wIVE HUNDREDvSIX HUNDREDwEVEN HUNDREDvEIGHT HUNDREDvNINE HUNDREDvONE THOUSANDvTWO THOUSAND",
      "wHREE THOUSANDvFOUR THOUSANDwIVE THOUSANDvSIX THOUSANDwEVEN THOUSANDvEIGHT THOUSAND",
      "vNINE THOUSANDvTEN THOUSANDwWENTY THOUSANDwHIRTY THOUSANDvFORTY THOUSANDwIFTY THOUSAND",
      "vSIXTY THOUSANDwEVENTY THOUSANDvEIGHTY THOUSANDvNINETY THOUSANDoMARRATANoALTERNATE NUMBER TWO",
      "+gHREE+fFOUR+gIVE+fSIX+gEVEN+fEIGHT+fNINE+fTEN+fFOUR HUNDRED+fSIX HUNDRED+fTWO THOUSAND",
      "+gEN THOUSANDoFRACTION ONE HALF+bSIXTH"]),
    (0x1EE00, ["aARABIC MATHEMATICAL ALEFuBEHuJEEMuDAL"]),
    (0x1EE05, ["aARABIC MATHEMATICAL WAWuZAINuHAHuTAHuYEHuKAFuLAMuMEEMuNOONuSEENuAINuFEHuSADuQAFuREH",
      "uSHEENuTEHvHEHuKHAHuTHALuDADuZAHuGHAINuDOTLESS BEH+cNOON+cFEH+cQAF"]),
    (0x1EE21, ["aARABIC MATHEMATICAL INITIAL BEH+cJEEM"]),
    (0x1EE24, ["aARABIC MATHEMATICAL INITIAL HEH"]),
    (0x1EE27, ["aARABIC MATHEMATICAL INITIAL HAH"]),
    (0x1EE29, ["aARABIC MATHEMATICAL INITIAL YEH+cKAF+cLAM+cMEEM+cNOON+cSEEN+cAIN+cFEH+cSAD+cQAF"]),
    (0x1EE34, ["aARABIC MATHEMATICAL INITIAL SHEEN+cTEH+dHEH+cKHAH"]),
    (0x1EE39, ["aARABIC MATHEMATICAL INITIAL DAD"]),
    (0x1EE3B, ["aARABIC MATHEMATICAL INITIAL GHAIN"]),
    (0x1EE42, ["aARABIC MATHEMATICAL TAILED JEEM"]),
    (0x1EE47, ["aARABIC MATHEMATICAL TAILED HAH"]),
    (0x1EE49, ["aARABIC MATHEMATICAL TAILED YEH"]),
    (0x1EE4B, ["aARABIC MATHEMATICAL TAILED LAM"]),
    (0x1EE4D, ["aARABIC MATHEMATICAL TAILED NOON+bSEEN+bAIN"]),
    (0x1EE51, ["aARABIC MATHEMATICAL TAILED SAD+bQAF"]),
    (0x1EE54, ["aARABIC MATHEMATICAL TAILED SHEEN"]),
    (0x1EE57, ["aARABIC MATHEMATICAL TAILED KHAH"]),
    (0x1EE59, ["aARABIC MATHEMATICAL TAILED DAD"]),
    (0x1EE5B, ["aARABIC MATHEMATICAL TAILED GHAIN"]),
    (0x1EE5D, ["aARABIC MATHEMATICAL TAILED DOTLESS NOON"]),
    (0x1EE5F, ["aARABIC MATHEMATICAL TAILED DOTLESS QAF"]),
    (0x1EE61, ["aARABIC MATHEMATICAL STRETCHED BEH+eJEEM"]),
    (0x1EE64, ["aARABIC MATHEMATICAL STRETCHED HEH"]),
    (0x1EE67, ["aARABIC MATHEMATICAL STRETCHED HAH+eTAH+eYEH+eKAF"]),
    (0x1EE6C, ["aARABIC MATHEMATICAL STRETCHED MEEM+eNOON+eSEEN+eAIN+eFEH+eSAD+eQAF"]),
    (0x1EE74, ["aARABIC MATHEMATICAL STRETCHED SHEEN+eTEH+fHEH+eKHAH"]),
    (0x1EE79, ["aARABIC MATHEMATICAL STRETCHED DAD+eZAH+eGHAIN+eDOTLESS BEH"]),
    (0x1EE7E, ["aARABIC MATHEMATICAL STRETCHED DOTLESS FEH"]),
    (0x1EE80, ["aARABIC MATHEMATICAL LOOPED ALEF+bBEH+bJEEM+bDAL+bHEH+bWAW+bZAIN+bHAH+bTAH+bYEH"]),
    (0x1EE8B, ["aARABIC MATHEMATICAL LOOPED LAM+bMEEM+bNOON+bSEEN+bAIN+bFEH+bSAD+bQAF+bREH+bSHEEN",
      "+bTEH+cHEH+bKHAH+bTHAL+bDAD+bZAH+bGHAIN"]),
    (0x1EEA1, ["aARABIC MATHEMATICAL DOUBLE-STRUCK BEH+iJEEM+iDAL"]),
    (0x1EEA5, ["aARABIC MATHEMATICAL DOUBLE-STRUCK WAW+iZAIN+iHAH+iTAH+iYEH"]),
    (0x1EEAB, ["aARABIC MATHEMATICAL DOUBLE-STRUCK LAM+iMEEM+iNOON+iSEEN+iAIN+iFEH+iSAD+iQAF+iREH",
      "+iSHEEN+iTEH+jHEH+iKHAH+iTHAL+iDAD+iZAH+iGHAIN"]),
    (0x1EEF0, ["aARABIC MATHEMATICAL OPERATOR MEEM WITH HAH WITH TATWEEL+dHAH WITH DAL"]),
    (0x1F000, ["aMAHJONG TILE EAST WINDnSOUTH WINDnWEST WINDnNORTH WINDnRED DRAGONnGREEN DRAGON",
      "nWHITE DRAGONnONE OF CHARACTERSnTWO OF CHARACTERSoHREE OF CHARACTERSnFOUR OF CHARACTERS",
      "oIVE OF CHARACTERSnSIX OF CHARACTERSoEVEN OF CHARACTERSnEIGHT OF CHARACTERS",
      "nNINE OF CHARACTERSnONE OF BAMBOOSnTWO OF BAMBOOSoHREE OF BAMBOOSnFOUR OF BAMBOOS",
      "oIVE OF BAMBOOSnSIX OF BAMBOOSoEVEN OF BAMBOOSnEIGHT OF BAMBOOSnNINE OF BAMBOOS",
      "nONE OF CIRCLESnTWO OF CIRCLESoHREE OF CIRCLESnFOUR OF CIRCLESoIVE OF CIRCLESnSIX OF CIRCLES",
      "oEVEN OF CIRCLESnEIGHT OF CIRCLESnNINE OF CIRCLESnPLUMnORCHIDnBAMBOOnCHRYSANTHEMUMnSPRING",
      "oUMMERnAUTUMNnWINTERnJOKERnBACK"]),
    (0x1F030, ["aDOMINO TILE HORIZONTAL BACKw-00-00+b1+b2+b3+b4+b5+b6y1-00+b1+b2+b3+b4+b5+b6y2-00+b1",
      "+b2+b3+b4+b5+b6y3-00+b1+b2+b3+b4+b5+b6y4-00+b1+b2+b3+b4+b5+b6y5-00+b1+b2+b3+b4+b5+b6y6-00+b1",
      "+b2+b3+b4+b5+b6mVERTICAL BACKu-00-00z1z2z3z4z5z6w1-00z1z2z3z4z5z6w2-00z1z2z3z4z5z6w3-00z1z2z3",
      "z4z5z6w4-00z1z2z3z4z5z6w5-00z1z2z3z4z5z6w6-00z1z2z3z4z5z6"]),
    (0x1F0A0, ["aPLAYING CARD BACKnACE OF SPADESnTWO OF SPADESoHREE OF SPADESnFOUR OF SPADES",
      "oIVE OF SPADESnSIX OF SPADESoEVEN OF SPADESnEIGHT OF SPADESnNINE OF SPADESnTEN OF SPADES",
      "nJACK OF SPADESnKNIGHT OF SPADESnQUEEN OF SPADESnKING OF SPADES"]),
    (0x1F0B1, ["aPLAYING CARD ACE OF HEARTSnTWO OF HEARTSoHREE OF HEARTSnFOUR OF HEARTS",
      "oIVE OF HEARTSnSIX OF HEARTSoEVEN OF HEARTSnEIGHT OF HEARTSnNINE OF HEARTSnTEN OF HEARTS",
      "nJACK OF HEARTSnKNIGHT OF HEARTSnQUEEN OF HEARTSnKING OF HEARTSnRED JOKER"]),
    (0x1F0C1, ["aPLAYING CARD ACE OF DIAMONDSnTWO OF DIAMONDSoHREE OF DIAMONDSnFOUR OF DIAMONDS",
      "oIVE OF DIAMONDSnSIX OF DIAMONDSoEVEN OF DIAMONDSnEIGHT OF DIAMONDSnNINE OF DIAMONDS",
      "nTEN OF DIAMONDSnJACK OF DIAMONDSnKNIGHT OF DIAMONDSnQUEEN OF DIAMONDSnKING OF DIAMONDS",
      "nBLACK JOKER"]),
    (0x1F0D1, ["aPLAYING CARD ACE OF CLUBSnTWO OF CLUBSoHREE OF CLUBSnFOUR OF CLUBSoIVE OF CLUBS",
      "nSIX OF CLUBSoEVEN OF CLUBSnEIGHT OF CLUBSnNINE OF CLUBSnTEN OF CLUBSnJACK OF CLUBS",
      "nKNIGHT OF CLUBSnQUEEN OF CLUBSnKING OF CLUBSnWHITE JOKERnFOOLnTRUMP-1t2t3t4t5t6t7t8t9t10u1u2",
      "u3u4u5u6u7u8u9t20u1"]),
    (0x1F100, ["aDIGIT ZERO FULL STOPlCOMMAgONE COMMAgTWO COMMAhHREE COMMAgFOUR COMMAhIVE COMMA",
      "gSIX COMMAhEVEN COMMAgEIGHT COMMAgNINE COMMAcNGBAT CIRCLED SANS-SERIF DIGIT ZERO",
      "iNEGATIVE CIRCLED SANS-SERIF DIGIT ZEROaCIRCLED ZERO WITH SLASHiANTICLOCKWISE ARROW",
      "iDOLLAR SIGN WITH OVERLAID BACKSLASHaPARENTHESIZED LATIN CAPITAL LETTER A+jB+jC+jD+jE+jF+jG",
      "+jH+jI+jJ+jK+jL+jM+jN+jO+jP+jQ+jR+jS+jT+jU+jV+jW+jX+jY+jZ",
      "aTORTOISE SHELL BRACKETED LATIN CAPITAL LETTER SaCIRCLED ITALIC LATIN CAPITAL LETTER C+kRiCD",
      "iWZbOPYLEFT SYMBOLaSQUARED LATIN CAPITAL LETTER A+dB+dC+dD+dE+dF+dG+dH+dI+dJ+dK+dL+dM+dN+dO",
      "+dP+dQ+dR+dS+dT+dU+dV+dW+dX+dY+dZiHViMViSDjSiPPViWCaNEGATIVE CIRCLED LATIN CAPITAL LETTER A",
      "+mB+mC+mD+mE+mF+mG+mH+mI+mJ+mK+mL+mM+mN+mO+mP+mQ+mR+mS+mT+mU+mV+mW+mX+mY+mZaRAISED MC SIGN",
      "iD SIGNiR SIGNaCIRCLED CCj WITH OVERLAID BACKSLASHiHUMAN FIGURE",
      "aNEGATIVE SQUARED LATIN CAPITAL LETTER A+mB+mC+mD+mE+mF+mG+mH+mI+mJ+mK+mL+mM+mN+mO+mP+mQ+mR",
      "+mS+mT+mU+mV+mW+mX+mY+mZaCROSSED NEGATIVE SQUARED LATIN CAPITAL LETTER PaNEGATIVE SQUARED IC",
      "rPArSArABrWCaSQUARE DJgD CLjOOLiFREEiIDiNEWjGiOKiSOSiUP WITH EXCLAMATION MARKiVSiTHREE D",
      "iSECOND SCREENiTWO KiFOUR KiEIGHT KiFIVE POINT ONEiSEVEN POINT ONEiTWENTY-TWO POINT TWO",
      "iSIXTY PiONE HUNDRED TWENTY PiLATIN SMALL LETTER DiHCjDRjI-RESiLOSSLESSiSHViUHDiVOD",
      "aMASK WORK SYMBOL"]),
    (0x1F1E6, ["aREGIONAL INDICATOR SYMBOL LETTER A+hB+hC+hD+hE+hF+hG+hH+hI+hJ+hK+hL+hM+hN+hO+hP+hQ",
      "+hR+hS+hT+hU+hV+hW+hX+hY+hZaSQUARE HIRAGANA HOKAgD KATAKANA KOKOrSA"]),
    (0x1F210, ["aSQUARED CJK UNIFIED IDEOGRAPH-624B+e5B57+f3CCiKATAKANA DE",
      "iCJK UNIFIED IDEOGRAPH-4E8C+e591A+e89E3+e5929+e4EA4+e6620+e7121+e6599+e524D+fF8C+f18D+e65B0",
      "+e521D+e7D42+f51F+e8CA9+e58F0+f439+e6F14+f295+f355+e4E00+h9+e904A+e5DE6+e4E2D+e53F3+e6307",
      "+e8D70+e6253+e7981+fA7A+e5408+e6E80+f709+h8+e7533+e5272+f5B6+e914D"]),
    (0x1F240, ["aTORTOISE SHELL BRACKETED CJK UNIFIED IDEOGRAPH-672C+v4E09+x8C+v5B89+v70B9+v6253",
      "+v76D7+v52DD+v6557"]),
    (0x1F250, ["aCIRCLED IDEOGRAPH ADVANTAGEtCCEPT"]),
    (0x1F260, ["aROUNDED SYMBOL FOR FUtLUtSHOUtXItSHUANGXItCAI"]),
    (0x1F300, ["aCYCLONEaFOGGYaCLOSED UMBRELLAaNIGHT WITH STARSaSUNRISE OVER MOUNTAINSh",
      "aCITYSCAPE AT DUSKaSUNSET OVER BUILDINGSaRAINBOWaBRIDGE AT NIGHTaWATER WAVEaVOLCANOaMILKY WAY",
      "aEARTH GLOBE EUROPE-AFRICAmAMERICASnSIA-AUSTRALIAaGLOBE WITH MERIDIANSaNEW MOON SYMBOL",
      "aWAXING CRESCENT MOON SYMBOLaFIRST QUARTER MOON SYMBOLaWAXING GIBBOUS MOON SYMBOL",
      "aFULL MOON SYMBOLaWANING GIBBOUS MOON SYMBOLaLAST QUARTER MOON SYMBOL",
      "aWANING CRESCENT MOON SYMBOLaCRESCENT MOONaNEW MOON WITH FACEaFIRST QUARTER MOON WITH FACE",
      "aLAST QUARTER MOON WITH FACEaFULL MOON WITH FACEaSUN WITH FACEaGLOWING STARaSHOOTING STAR",
      "aTHERMOMETERaBLACK DROPLETaWHITE SUNj WITH SMALL CLOUDkBEHIND CLOUDw WITH RAIN",
      "aCLOUD WITH RAINlSNOWlLIGHTNINGlTORNADOaFOGaWIND BLOWING FACEaHOT DOGaTACOaBURRITOaCHESTNUT",
      "aSEEDLINGaEVERGREEN TREEaDECIDUOUS TREEaPALM TREEaCACTUSaHOT PEPPERaTULIPaCHERRY BLOSSOMaROSE",
      "aHIBISCUSaSUNFLOWERaBLOSSOMaEAR OF MAIZEhRICEaHERBaFOUR LEAF CLOVERaMAPLE LEAFaFALLEN LEAF",
      "aLEAF FLUTTERING IN WINDaMUSHROOMaTOMATOaAUBERGINEaGRAPESaMELONaWATERMELONaTANGERINEaLEMON",
      "aBANANAaPINEAPPLEaRED APPLEaGREEN APPLEaPEARdCHaCHERRIESaSTRAWBERRYaHAMBURGERaSLICE OF PIZZA",
      "aMEAT ON BONEaPOULTRY LEGaRICE CRACKERfBALLaCOOKED RICEbURRY AND RICEaSTEAMING BOWLbPAGHETTI",
      "aBREADaFRENCH FRIESaROASTED SWEET POTATOaDANGOaODENaSUSHIaFRIED SHRIMP",
      "bISH CAKE WITH SWIRL DESIGNaSOFT ICE CREAMbHAVED ICEaICE CREAMaDOUGHNUTaCOOKIEbHOCOLATE BAR",
      "bANDYaLOLLIPOPaCUSTARDaHONEY POTaSHORTCAKEaBENTO BOXaPOT OF FOODaCOOKINGaFORK AND KNIFE",
      "aTEACUP WITHOUT HANDLEaSAKE BOTTLE AND CUPaWINE GLASSaCOCKTAIL GLASSaTROPICAL DRINKaBEER MUG",
      "aCLINKING BEER MUGSaBABY BOTTLEaFORK AND KNIFE WITH PLATEaBOTTLE WITH POPPING CORKaPOPCORN",
      "aRIBBONaWRAPPED PRESENTaBIRTHDAY CAKEaJACK-O-LANTERNaCHRISTMAS TREEaFATHER CHRISTMASbIREWORKS",
      "i SPARKLERaBALLOONaPARTY POPPERaCONFETTI BALLaTANABATA TREEaCROSSED FLAGSaPINE DECORATION",
      "aJAPANESE DOLLSaCARP STREAMERaWIND CHIMEaMOON VIEWING CEREMONYaSCHOOL SATCHELaGRADUATION CAP",
      "aHEART WITH TIP ON THE LEFTaBOUQUET OF FLOWERSaMILITARY MEDALaREMINDER RIBBON",
      "aMUSICAL KEYBOARD WITH JACKSaSTUDIO MICROPHONEaLEVEL SLIDERaCONTROL KNOBS",
      "aBEAMED ASCENDING MUSICAL NOTEShDESCENDING MUSICAL NOTESaFILM FRAMESaADMISSION TICKETS",
      "aCAROUSEL HORSEaFERRIS WHEELaROLLER COASTERaFISHING POLE AND FISHaMICROPHONEbOVIE CAMERA",
      "aCINEMAaHEADPHONEaARTIST PALETTEaTOP HATaCIRCUS TENTaTICKETaCLAPPER BOARDaPERFORMING ARTS",
      "aVIDEO GAMEaDIRECT HITaSLOT MACHINEaBILLIARDSaGAME DIEaBOWLINGaFLOWER PLAYING CARDS",
      "aMUSICAL NOTEcLTIPLE MUSICAL NOTESaSAXOPHONEaGUITARaMUSICAL KEYBOARDaTRUMPETaVIOLIN",
      "aMUSICAL SCOREaRUNNING SHIRT WITH SASHaTENNIS RACQUET AND BALLaSKI AND SKI BOOT",
      "aBASKETBALL AND HOOPaCHEQUERED FLAGaSNOWBOARDERaRUNNERaSURFERbPORTS MEDALaTROPHYaHORSE RACING",
      "aAMERICAN FOOTBALLaRUGBY FOOTBALLaSWIMMERaWEIGHT LIFTERaGOLFERaRACING MOTORCYCLEhCAR",
      "aCRICKET BAT AND BALLaVOLLEYBALLaFIELD HOCKEY STICK AND BALLaICE HOCKEY STICK AND PUCK",
      "aTABLE TENNIS PADDLE AND BALLaSNOW CAPPED MOUNTAINaCAMPINGaBEACH WITH UMBRELLA",
      "bUILDING CONSTRUCTIONaHOUSE BUILDINGSaCITYSCAPEaDERELICT HOUSE BUILDINGaCLASSICAL BUILDING",
      "aDESERTg ISLANDaNATIONAL PARKaSTADIUMaHOUSE BUILDINGgWITH GARDENaOFFICE BUILDING",
      "aJAPANESE POST OFFICEaEUROPEAN POST OFFICEaHOSPITALaBANKaAUTOMATED TELLER MACHINEaHOTEL",
      "aLOVE HOTELaCONVENIENCE STOREaSCHOOLaDEPARTMENT STOREaFACTORYaIZAKAYA LANTERNaJAPANESE CASTLE",
      "aEUROPEAN CASTLEaWHITE PENNANTaBLACK PENNANTaWAVING WHITE FLAGhBLACK FLAGaROSETTE",
      "aBLACK ROSETTEaLABELaBADMINTON RACQUET AND SHUTTLECOCKbOW AND ARROWaAMPHORA",
      "aEMOJI MODIFIER FITZPATRICK TYPE-1-2+g3+g4+g5+g6aRATaMOUSEaOXaWATER BUFFALOaCOWaTIGERaLEOPARD",
      "aRABBITaCATaDRAGONaCROCODILEaWHALEaSNAILdKEaHORSEaRAMaGOATaSHEEPaMONKEYaROOSTERaCHICKENaDOG",
      "aPIGaBOARaELEPHANTaOCTOPUSaSPIRAL SHELLaBUGaANTaHONEYBEEaLADY BEETLEaFISHaTROPICAL FISH",
      "aBLOWFISHaTURTLEaHATCHING CHICKaBABY CHICKaFRONT-FACING BABY CHICKaBIRDaPENGUINaKOALAaPOODLE",
      "aDROMEDARY CAMELaBACTRIAN CAMELaDOLPHINaMOUSE FACEaCOW FACEaTIGER FACEaRABBIT FACEaCAT FACE",
      "aDRAGON FACEaSPOUTING WHALEaHORSE FACEaMONKEY FACEaDOG FACEaPIG FACEaFROG FACEaHAMSTER FACE",
      "aWOLF FACEaBEAR FACEaPANDA FACEbIG NOSEbAW PRINTSaCHIPMUNKaEYESdbARaNOSEaMOUTHaTONGUE",
      "aWHITE UP POINTING BACKHAND INDEXgDOWN POINTING BACKHAND INDEXgLEFT POINTING BACKHAND INDEX",
      "gRIGHT POINTING BACKHAND INDEXaFISTED HAND SIGNaWAVING HAND SIGNaOK HAND SIGNaTHUMBS UP SIGN",
      "hDOWN SIGNaCLAPPING HANDS SIGNaOPEN HANDS SIGNaCROWNaWOMANS HATaEYEGLASSESaNECKTIEaT-SHIRT",
      "aJEANSaDRESSaKIMONOaBIKINIaWOMANS CLOTHESaPURSEaHANDBAGaPOUCHaMANS SHOEaATHLETIC SHOE",
      "aHIGH-HEELED SHOEaWOMANS SANDALhBOOTSaFOOTPRINTSaBUST IN SILHOUETTEeS IN SILHOUETTEbOYaGIRL",
      "aMANaWOMANaFAMILYaMAN AND WOMAN HOLDING HANDSaTWO MEN HOLDING HANDSeWOMEN HOLDING HANDS",
      "aPOLICE OFFICERaWOMAN WITH BUNNY EARSaBRIDE WITH VEILaPERSON WITH BLOND HAIR",
      "aMAN WITH GUA PI MAOjTURBANaOLDER MANgWOMANaBABYaCONSTRUCTION WORKERaPRINCESSaJAPANESE OGRE",
      "jGOBLINaGHOSTaBABY ANGELaEXTRATERRESTRIAL ALIENaALIEN MONSTERaIMPaSKULL",
      "aINFORMATION DESK PERSONaGUARDSMANaDANCERaLIPSTICKaNAIL POLISHaFACE MASSAGEaHAIRCUT",
      "aBARBER POLEaSYRINGEaPILLaKISS MARKaLOVE LETTERaRINGaGEM STONEaKISSaBOUQUETaCOUPLE WITH HEART",
      "aWEDDINGaBEATING HEARTbROKEN HEARTaTWO HEARTSaSPARKLING HEARTaGROWING HEARTaHEART WITH ARROW",
      "aBLUE HEARTaGREEN HEARTaYELLOW HEARTaPURPLE HEARTaHEART WITH RIBBONaREVOLVING HEARTS",
      "aHEART DECORATIONaDIAMOND SHAPE WITH A DOT INSIDEaELECTRIC LIGHT BULBaANGER SYMBOLaBOMB",
      "aSLEEPING SYMBOLaCOLLISION SYMBOLaSPLASHING SWEAT SYMBOLaDROPLETbASH SYMBOLaPILE OF POO",
      "aFLEXED BICEPSaDIZZY SYMBOLaSPEECH BALLOONaTHOUGHT BALLOONaWHITE FLOWERaHUNDRED POINTS SYMBOL",
      "aMONEY BAGaCURRENCY EXCHANGEaHEAVY DOLLAR SIGNaCREDIT CARDaBANKNOTE WITH YEN SIGNoDOLLAR SIGN",
      "oEURO SIGNoPOUND SIGNaMONEY WITH WINGSaCHART WITH UPWARDS TREND AND YEN SIGNaSEAT",
      "aPERSONAL COMPUTERaBRIEFCASEaMINIDISCaFLOPPY DISKaOPTICAL DISCaDVDaFILE FOLDER",
      "aOPEN FILE FOLDERaPAGE WITH CURLfFACING UPaCALENDARaTEAR-OFF CALENDARaCARD INDEX",
      "bHART WITH UPWARDS TRENDlDOWNWARDS TRENDaBAR CHARTaCLIPBOARDaPUSHPINaROUND PUSHPINaPAPERCLIP",
      "aSTRAIGHT RULERaTRIANGULAR RULERaBOOKMARK TABSaLEDGERaNOTEBOOKi WITH DECORATIVE COVER",
      "aCLOSED BOOKaOPEN BOOKaGREEN BOOKaBLUE BOOKaORANGE BOOKaBOOKSaNAME BADGEaSCROLLaMEMO",
      "aTELEPHONE RECEIVERaPAGERaFAX MACHINEaSATELLITE ANTENNAaPUBLIC ADDRESS LOUDSPEAKER",
      "aCHEERING MEGAPHONEaOUTBOX TRAYaINBOX TRAYaPACKAGEaE-MAIL SYMBOLaINCOMING ENVELOPE",
      "aENVELOPE WITH DOWNWARDS ARROW ABOVEaCLOSED MAILBOX WITH LOWERED FLAGuRAISED FLAG",
      "aOPEN MAILBOX WITH RAISED FLAGsLOWERED FLAGaPOSTBOXeAL HORNaNEWSPAPERaMOBILE PHONE",
      "m WITH RIGHTWARDS ARROW AT LEFTaVIBRATION MODEaMOBILE PHONE OFFaNO MOBILE PHONES",
      "aANTENNA WITH BARSaCAMERAg WITH FLASHaVIDEO CAMERAaTELEVISIONaRADIOaVIDEOCASSETTE",
      "aFILM PROJECTORaPORTABLE STEREObRAYER BEADSaTWISTED RIGHTWARDS ARROWS",
      "aCLOCKWISE RIGHTWARDS AND LEFTWARDS OPEN CIRCLE ARROWS++b WITH CIRCLED ONE OVERLAY",
      "kDOWNWARDS AND UPWARDS OPEN CIRCLE ARROWS",
      "aANTICLOCKWISE DOWNWARDS AND UPWARDS OPEN CIRCLE ARROWSaLOW BRIGHTNESS SYMBOL",
      "aHIGH BRIGHTNESS SYMBOLaSPEAKER WITH CANCELLATION STROKEhh WITH ONE SOUND WAVE",
      "nTHREE SOUND WAVESaBATTERYaELECTRIC PLUGaLEFT-POINTING MAGNIFYING GLASS",
      "aRIGHT-POINTING MAGNIFYING GLASSaLOCK WITH INK PENaCLOSED LOCK WITH KEYaKEYaLOCKaOPEN LOCK",
      "aBELLe WITH CANCELLATION STROKEbOOKMARKaLINK SYMBOLaRADIO BUTTON",
      "aBACK WITH LEFTWARDS ARROW ABOVEaEND WITH LEFTWARDS ARROW ABOVE",
      "aON WITH EXCLAMATION MARK WITH LEFT RIGHT ARROW ABOVEaSOON WITH RIGHTWARDS ARROW ABOVE",
      "aTOP WITH UPWARDS ARROW ABOVEaNO ONE UNDER EIGHTEEN SYMBOLaKEYCAP TEN",
      "aINPUT SYMBOL FOR LATIN CAPITAL LETTERSxSMALL LETTERSrNUMBERSrSYMBOLSrLATIN LETTERSaFIRE",
      "aELECTRIC TORCHaWRENCHaHAMMERaNUT AND BOLTaHOCHOaPISTOLaMICROSCOPEaTELESCOPEaCRYSTAL BALL",
      "aSIX POINTED STAR WITH MIDDLE DOTaJAPANESE SYMBOL FOR BEGINNERaTRIDENT EMBLEM",
      "aBLACK SQUARE BUTTONaWHITE SQUARE BUTTONaLARGE RED CIRCLEgBLUE CIRCLEgORANGE DIAMOND",
      "gBLUE DIAMONDaSMALL ORANGE DIAMONDgBLUE DIAMONDaUP-POINTING RED TRIANGLE",
      "aDOWN-POINTING RED TRIANGLEaUP-POINTING SMALL RED TRIANGLEaDOWN-POINTING SMALL RED TRIANGLE",
      "aLOWER RIGHT SHADOWED WHITE CIRCLEaUPPER RIGHT SHADOWED WHITE CIRCLEaCIRCLED CROSS POMMEE",
      "bROSS POMMEE WITH HALF-CIRCLE BELOWmaNOTCHED LEFT SEMICIRCLE WITH THREE DOTS",
      "iRIGHT SEMICIRCLE WITH THREE DOTSaSYMBOL FOR MARKS CHAPTERaWHITE LATIN CROSS",
      "aHEAVY LATIN CROSSaCELTIC CROSSaOM SYMBOLaDOVE OF PEACEaKAABAaMOSQUEaSYNAGOGUE",
      "aMENORAH WITH NINE BRANCHESaBOWL OF HYGIEIAaCLOCK FACE ONE OCLOCKlTWO OCLOCKmHREE OCLOCK",
      "lFOUR OCLOCKmIVE OCLOCKlSIX OCLOCKmEVEN OCLOCKlEIGHT OCLOCKlNINE OCLOCKlTEN OCLOCK",
      "lELEVEN OCLOCKlTWELVE OCLOCKlONE-THIRTYlTWO-THIRTYmHREE-THIRTYlFOUR-THIRTYmIVE-THIRTY",
      "lSIX-THIRTYmEVEN-THIRTYlEIGHT-THIRTYlNINE-THIRTYlTEN-THIRTYlELEVEN-THIRTYlTWELVE-THIRTY",
      "aRIGHT SPEAKERn WITH ONE SOUND WAVEtTHREE SOUND WAVESaBULLHORNi WITH SOUND WAVESaRINGING BELL",
      "aBOOKaCANDLEaMANTELPIECE CLOCKaBLACK SKULL AND CROSSBONESaNO PIRACYaHOLE",
      "aMAN IN BUSINESS SUIT LEVITATINGaSLEUTH OR SPYaDARK SUNGLASSESaSPIDERg WEBaJOYSTICK",
      "aMAN DANCINGaLEFT HAND TELEPHONE RECEIVERaTELEPHONE RECEIVER WITH PAGE",
      "aRIGHT HAND TELEPHONE RECEIVERaWHITE TOUCHTONE TELEPHONEaBLACK TOUCHTONE TELEPHONE",
      "aTELEPHONE ON TOP OF MODEMaCLAMSHELL MOBILE PHONEaBACK OF ENVELOPEaSTAMPED ENVELOPE",
      "aENVELOPE WITH LIGHTNINGaFLYING ENVELOPEaPEN OVER STAMPED ENVELOPEaLINKED PAPERCLIPS",
      "aBLACK PUSHPINaLOWER LEFT PENCILlBALLPOINT PENlFOUNTAIN PENlPAINTBRUSHlCRAYON",
      "bEFT WRITING HANDaTURNED OK HAND SIGNaRAISED HAND WITH FINGERS SPLAYED",
      "bEVERSED RAISED HAND WITH FINGERS SPLAYEDjTHUMBS UP SIGNqDOWN SIGNjVICTORY HAND",
      "jHAND WITH MIDDLE FINGER EXTENDEDbAISED HAND WITH PART BETWEEN MIDDLE AND RING FINGERS",
      "aWHITE DOWN POINTING LEFT HAND INDEXaSIDEWAYS WHITE LEFT POINTING INDEXpRIGHT POINTING INDEX",
      "jBLACK LEFT POINTING INDEXpRIGHT POINTING INDEXaBLACK LEFT POINTING BACKHAND INDEX",
      "gRIGHT POINTING BACKHAND INDEXaSIDEWAYS WHITE UP POINTING INDEXpDOWN POINTING INDEX",
      "jBLACK UP POINTING INDEXpDOWN POINTING INDEXaBLACK UP POINTING BACKHAND INDEX",
      "gDOWN POINTING BACKHAND INDEXgHEARTaDESKTOP COMPUTERaKEYBOARD AND MOUSE",
      "aTHREE NETWORKED COMPUTERSaPRINTERbOCKET CALCULATORaBLACK HARD SHELL FLOPPY DISK",
      "aWHITE HARD SHELL FLOPPY DISKaSOFT SHELL FLOPPY DISKaTAPE CARTRIDGEaWIRED KEYBOARD",
      "aONE BUTTON MOUSEaTWO BUTTON MOUSEbHREE BUTTON MOUSEbRACKBALLaOLD PERSONAL COMPUTERaHARD DISK",
      "aSCREENaPRINTER ICONaFAX ICONaOPTICAL DISC ICONaDOCUMENT WITH TEXTs AND PICTUREoPICTURE",
      "aFRAME WITH PICTURElTILESlAN XaBLACK FOLDERaFOLDERaOPEN FOLDERaCARD INDEX DIVIDERSfFILE BOX",
      "aFILE CABINETaEMPTY NOTEk PAGEnDaNOTEe PAGEhDaEMPTY DOCUMENTgPAGEkSaDOCUMENTaPAGEeS",
      "aWASTEBASKETaSPIRAL NOTE PADhCALENDAR PADaDESKTOP WINDOWaMINIMIZEbAXIMIZEaOVERLAP",
      "aCLOCKWISE RIGHT AND LEFT SEMICIRCLE ARROWSbANCELLATION XaINCREASE FONT SIZE SYMBOL",
      "aDECREASE FONT SIZE SYMBOLaCOMPRESSIONaOLD KEYaROLLED-UP NEWSPAPERaPAGE WITH CIRCLED TEXT",
      "aSTOCK CHARTaDAGGER KNIFEaLIPSaSPEAKING HEAD IN SILHOUETTEaTHREE RAYS ABOVElBELOWlLEFTlRIGHT",
      "aLEFT SPEECH BUBBLEaRIGHT SPEECH BUBBLEaTWO SPEECH BUBBLESbHREE SPEECH BUBBLES",
      "aLEFT THOUGHT BUBBLEaRIGHT THOUGHT BUBBLEaLEFT ANGER BUBBLEaRIGHT ANGER BUBBLEaMOOD BUBBLE",
      "aLIGHTNING MOOD BUBBLEoaBALLOT BOX WITH BALLOThSCRIPT XhBOX WITH SCRIPT XjLD SCRIPT X",
      "jX WITH BOLD SCRIPT XaLIGHT CHECK MARKaBALLOT BOX WITH BOLD CHECKaWORLD MAPaMOUNT FUJI",
      "aTOKYO TOWERaSTATUE OF LIBERTYbILHOUETTE OF JAPANaMOYAIaGRINNING FACEn WITH SMILING EYES",
      "aFACE WITH TEARS OF JOYaSMILING FACE WITH OPEN MOUTH+c AND SMILING EYES+hCOLD SWEAT",
      "+hTIGHTLY-CLOSED EYESsHALOtORNSaWINKING FACEaSMILING FACE WITH SMILING EYES",
      "aFACE SAVOURING DELICIOUS FOODaRELIEVED FACEaSMILING FACE WITH HEART-SHAPED EYESsSUNGLASSES",
      "dRKING FACEaNEUTRAL FACEaEXPRESSIONLESS FACEaUNAMUSED FACEaFACE WITH COLD SWEATaPENSIVE FACE",
      "aCONFUSED FACEeOUNDED FACEaKISSING FACEaFACE THROWING A KISSaKISSING FACE WITH SMILING EYES",
      "sCLOSED EYESaFACE WITH STUCK-OUT TONGUE+a AND WINKING EYE+fTIGHTLY-CLOSED EYES",
      "aDISAPPOINTED FACEaWORRIED FACEaANGRY FACEaPOUTING FACEaCRYING FACEaPERSEVERING FACE",
      "aFACE WITH LOOK OF TRIUMPHaDISAPPOINTED BUT RELIEVED FACEaFROWNING FACE WITH OPEN MOUTH",
      "aANGUISHED FACEaFEARFUL FACEaWEARY FACEaSLEEPY FACEaTIRED FACEaGRIMACING FACE",
      "aLOUDLY CRYING FACEaFACE WITH OPEN MOUTHaHUSHED FACEaFACE WITH OPEN MOUTH AND COLD SWEAT",
      "fSCREAMING IN FEARaASTONISHED FACEaFLUSHED FACEaSLEEPING FACEaDIZZY FACEaFACE WITHOUT MOUTH",
      "j MEDICAL MASKaGRINNING CAT FACE WITH SMILING EYESaCAT FACE WITH TEARS OF JOY",
      "aSMILING CAT FACE WITH OPEN MOUTHwHEART-SHAPED EYESaCAT FACE WITH WRY SMILE",
      "aKISSING CAT FACE WITH CLOSED EYESaPOUTING CAT FACEaCRYING CAT FACEaWEARY CAT FACE",
      "aSLIGHTLY FROWNING FACEjSMILING FACEaUPSIDE-DOWN FACEaFACE WITH ROLLING EYESkNO GOOD GESTURE",
      "kOK GESTUREaPERSON BOWING DEEPLYaSEE-NO-EVIL MONKEYaHEAR-NO-EVIL MONKEYaSPEAK-NO-EVIL MONKEY",
      "aHAPPY PERSON RAISING ONE HANDaPERSON RAISING BOTH HANDS IN CELEBRATIONhFROWNING",
      "hWITH POUTING FACEmFOLDED HANDSaNORTH WEST POINTING LEAFaSOUTH WEST POINTING LEAF",
      "aNORTH EAST POINTING LEAFaSOUTH EAST POINTING LEAFaTURNED NORTH WEST POINTING LEAF",
      "hSOUTH WEST POINTING LEAFhNORTH EAST POINTING LEAFhSOUTH EAST POINTING LEAF",
      "aNORTH WEST POINTING VINE LEAFaSOUTH WEST POINTING VINE LEAFaNORTH EAST POINTING VINE LEAF",
      "aSOUTH EAST POINTING VINE LEAFaHEAVY NORTH WEST POINTING VINE LEAF",
      "gSOUTH WEST POINTING VINE LEAFgNORTH EAST POINTING VINE LEAFgSOUTH EAST POINTING VINE LEAF",
      "aNORTH WEST POINTING BUDaSOUTH WEST POINTING BUDaNORTH EAST POINTING BUD",
      "aSOUTH EAST POINTING BUDaHEAVY NORTH WEST POINTING BUDgSOUTH WEST POINTING BUD",
      "gNORTH EAST POINTING BUDgSOUTH EAST POINTING BUDbOLLOW QUILT SQUARE ORNAMENT",
      "+c IN BLACK SQUAREaSOLID QUILT SQUARE ORNAMENT+b IN BLACK SQUAREaLEFTWARDS ROCKET",
      "aUPWARDS ROCKETaRIGHTWARDS ROCKETaDOWNWARDS ROCKETaSCRIPT LIGATURE ET ORNAMENT",
      "aHEAVY SCRIPT LIGATURE ET ORNAMENTaLIGATURE OPEN ET ORNAMENTaHEAVY LIGATURE OPEN ET ORNAMENT",
      "gAMPERSAND ORNAMENTaSWASH AMPERSAND ORNAMENT",
      "bANS-SERIF HEAVY DOUBLE TURNED COMMA QUOTATION MARK ORNAMENTyCOMMA QUOTATION MARK ORNAMENT",
      "rLOW DOUBLE COMMA QUOTATION MARK ORNAMENTaHEAVY INTERROBANG ORNAMENT",
      "aSANS-SERIF INTERROBANG ORNAMENTaHEAVY SANS-SERIF INTERROBANG ORNAMENTaVERY HEAVY SOLIDUS",
      "lREVERSE SOLIDUSaCHECKER BOARDaREVERSE CHECKER BOARDbOCKETaHELICOPTERaSTEAM LOCOMOTIVE",
      "aRAILWAY CARaHIGH-SPEED TRAINq WITH BULLET NOSEaTRAINaMETROaLIGHT RAILaSTATIONaTRAMe CARaBUS",
      "aONCOMING BUSaTROLLEYBUSaBUS STOPaMINIBUSaAMBULANCEaFIRE ENGINEaPOLICE CAR",
      "aONCOMING POLICE CARaTAXIaONCOMING TAXIaAUTOMOBILEaONCOMING AUTOMOBILEaRECREATIONAL VEHICLE",
      "aDELIVERY TRUCKaARTICULATED LORRYaTRACTORaMONORAILcUNTAIN RAILWAYaSUSPENSION RAILWAY",
      "aMOUNTAIN CABLEWAYaAERIAL TRAMWAYaSHIPaROWBOATaSPEEDBOATaHORIZONTAL TRAFFIC LIGHT",
      "aVERTICAL TRAFFIC LIGHTaCONSTRUCTION SIGNaPOLICE CARS REVOLVING LIGHTaTRIANGULAR FLAG ON POST",
      "aDOORaNO ENTRY SIGNaSMOKING SYMBOLaNO SMOKING SYMBOLaPUT LITTER IN ITS PLACE SYMBOL",
      "aDO NOT LITTER SYMBOLaPOTABLE WATER SYMBOLaNON-POTABLE WATER SYMBOLaBICYCLEaNO BICYCLES",
      "aBICYCLISTaMOUNTAIN BICYCLISTaPEDESTRIANaNO PEDESTRIANSaCHILDREN CROSSINGaMENS SYMBOL",
      "aWOMENS SYMBOLaRESTROOMaBABY SYMBOLaTOILETaWATER CLOSETaSHOWERaBATHeTUBaPASSPORT CONTROL",
      "aCUSTOMSaBAGGAGE CLAIMaLEFT LUGGAGEaTRIANGLE WITH ROUNDED CORNERSaPROHIBITED SIGN",
      "aCIRCLED INFORMATION SOURCEaBOYS SYMBOLaGIRLS SYMBOLaCOUCH AND LAMPaSLEEPING ACCOMMODATION",
      "bHOPPING BAGSaBELLHOP BELLcDaPLACE OF WORSHIPaOCTAGONAL SIGNaSHOPPING TROLLEYbTUPAaPAGODA",
      "aHINDU TEMPLEbUTaELEVATOR"]),
    (0x1F6DD, ["aPLAYGROUND SLIDEaWHEELaRING BUOYaHAMMER AND WRENCHaSHIELDaOIL DRUMaMOTORWAY",
      "aRAILWAY TRACKaMOTOR BOATaUP-POINTING MILITARY AIRPLANEmAIRPLANEmSMALL AIRPLANE",
      "aSMALL AIRPLANEaNORTHEAST-POINTING AIRPLANEaAIRPLANE DEPARTUREjARRIVING"]),
    (0x1F6F0, ["aSATELLITEaONCOMING FIRE ENGINEaDIESEL LOCOMOTIVEaPASSENGER SHIPaSCOOTER",
      "aMOTOR SCOOTERaCANOEaSLEDaFLYING SAUCERaSKATEBOARDaAUTO RICKSHAWaPICKUP TRUCKaROLLER SKATE"]),
    (0x1F700, ["aALCHEMICAL SYMBOL FOR QUINTESSENCEwAIRwFIREwEARTHwWATERwAQUAFORTIS+a REGIA+g-2",
      "+bVITAE+g-2wVINEGAR+d-2+e3wSULFURwPHILOSOPHERS SULFURwBLACK SULFURwMERCURY SUBLIMATE+n-2+o3",
      "wCINNABARwSALTwNITREwVITRIOL+d-2wROCK SALT+f-2wGOLDwSILVERwIRON ORE+e-2wCROCUS OF IRON",
      "wREGULUS OF IRONwCOPPER OREwIRON-COPPER OREwSUBLIMATE OF COPPERwCROCUS OF COPPER+m-2",
      "xOPPER ANTIMONIATEwSALT OF COPPER ANTIMONIATExUBLIMATE OF SALT OF COPPERwVERDIGRISwTIN ORE",
      "wLEAD OREwANTIMONY OREwSUBLIMATE OF ANTIMONYxALT OF ANTIMONYxUBLIMATE OF SALT OF ANTIMONY",
      "wVINEGAR OF ANTIMONYwREGULUS OF ANTIMONY+p-2+d+d-2+e3+e4wALKALI+c-2wMARCASITEwSAL-AMMONIAC",
      "wARSENICwREALGAR+d-2wAURIPIGMENTwBISMUTH OREwTARTAR+c-2wQUICK LIMEwBORAX+b-2+c3wALUMwOIL",
      "wSPIRITwTINCTUREwGUMwWAXwPOWDERwCALXwTUTTYwCAPUT MORTUUMwSCEPTER OF JOVEwCADUCEUSwTRIDENT",
      "wSTARRED TRIDENTwLODESTONEwSOAPwURINEwHORSE DUNGwASHESwPOT ASHESwBRICKwPOWDERED BRICKwAMALGAM",
      "wSTRATUM SUPER STRATUM+r-2xUBLIMATIONwPRECIPITATEwDISTILLzSOLVE+e-2wPURIFYyTREFACTION",
      "wCRUCIBLE+e-2+f3+f4+f5wALEMBICwBATH OF MARY+eVAPOURSwRETORTwHOURwNIGHTwDAY-NIGHTwMONTH",
      "wHALF DRAM+bOUNCE"]),
    (0x1F780, ["aBLACK LEFT-POINTING ISOSCELES RIGHT TRIANGLEgUP-POINTING ISOSCELES RIGHT TRIANGLE",
      "gRIGHT-POINTING ISOSCELES RIGHT TRIANGLEgDOWN-POINTING ISOSCELES RIGHT TRIANGLE",
      "gSLIGHTLY SMALL CIRCLEaMEDIUM BOLD WHITE CIRCLEaBOLD WHITE CIRCLEaHEAVY WHITE CIRCLE",
      "aVERY HEAVY WHITE CIRCLEaEXTREMELY HEAVY WHITE CIRCLE",
      "aWHITE CIRCLE CONTAINING BLACK SMALL CIRCLEaROUND TARGETaBLACK TINY SQUARE",
      "gSLIGHTLY SMALL SQUAREaLIGHT WHITE SQUAREaMEDIUM WHITE SQUAREaBOLD WHITE SQUARE",
      "aHEAVY WHITE SQUAREaVERY HEAVY WHITE SQUAREaEXTREMELY HEAVY WHITE SQUARE",
      "aWHITE SQUARE CONTAINING BLACK VERY SMALL SQUARE+eMEDIUM SQUAREaSQUARE TARGET",
      "aBLACK TINY DIAMONDgVERY SMALL DIAMONDgMEDIUM SMALL DIAMOND",
      "aWHITE DIAMOND CONTAINING BLACK VERY SMALL DIAMOND+fMEDIUM DIAMONDaDIAMOND TARGET",
      "aBLACK TINY LOZENGEgVERY SMALL LOZENGEgMEDIUM SMALL LOZENGE",
      "aWHITE LOZENGE CONTAINING BLACK SMALL LOZENGEaTHIN GREEK CROSSaLIGHT GREEK CROSS",
      "aMEDIUM GREEK CROSSaBOLD GREEK CROSSaVERY BOLD GREEK CROSSfHEAVY GREEK CROSS",
      "aEXTREMELY HEAVY GREEK CROSSaTHIN SALTIREaLIGHT SALTIREaMEDIUM SALTIREaBOLD SALTIRE",
      "aHEAVY SALTIREaVERY HEAVY SALTIREaEXTREMELY HEAVY SALTIREaLIGHT FIVE SPOKED ASTERISK",
      "aMEDIUM FIVE SPOKED ASTERISKaBOLD FIVE SPOKED ASTERISKaHEAVY FIVE SPOKED ASTERISK",
      "aVERY HEAVY FIVE SPOKED ASTERISKaEXTREMELY HEAVY FIVE SPOKED ASTERISK",
      "aLIGHT SIX SPOKED ASTERISKaMEDIUM SIX SPOKED ASTERISKaBOLD SIX SPOKED ASTERISK",
      "aHEAVY SIX SPOKED ASTERISKaVERY HEAVY SIX SPOKED ASTERISKaEXTREMELY HEAVY SIX SPOKED ASTERISK",
      "aLIGHT EIGHT SPOKED ASTERISKaMEDIUM EIGHT SPOKED ASTERISKaBOLD EIGHT SPOKED ASTERISK",
      "aHEAVY EIGHT SPOKED ASTERISKaVERY HEAVY EIGHT SPOKED ASTERISKaLIGHT THREE POINTED BLACK STAR",
      "aMEDIUM THREE POINTED BLACK STARaTHREE POINTED BLACK STARaMEDIUM THREE POINTED PINWHEEL STAR",
      "aLIGHT FOUR POINTED BLACK STARaMEDIUM FOUR POINTED BLACK STARaFOUR POINTED BLACK STAR",
      "aMEDIUM FOUR POINTED PINWHEEL STARaREVERSE LIGHT FOUR POINTED PINWHEEL STAR",
      "aLIGHT FIVE POINTED BLACK STARaHEAVY FIVE POINTED BLACK STARaMEDIUM SIX POINTED BLACK STAR",
      "aHEAVY SIX POINTED BLACK STARaSIX POINTED PINWHEEL STARaMEDIUM EIGHT POINTED BLACK STAR",
      "aHEAVY EIGHT POINTED BLACK STARaVERY HEAVY EIGHT POINTED BLACK STAR",
      "aHEAVY EIGHT POINTED PINWHEEL STARaLIGHT TWELVE POINTED BLACK STAR",
      "aHEAVY TWELVE POINTED BLACK STARvPINWHEEL STARaCIRCLED TRIANGLEaNEGATIVE CIRCLED TRIANGLE",
      "aCIRCLED SQUAREaNEGATIVE CIRCLED SQUARE"]),
    (0x1F7E0, ["aLARGE ORANGE CIRCLEgYELLOW CIRCLEgGREEN CIRCLEgPURPLE CIRCLEgBROWN CIRCLE",
      "gRED SQUAREgBLUE SQUAREgORANGE SQUAREgYELLOW SQUAREgGREEN SQUAREgPURPLE SQUAREgBROWN SQUARE"]),
    (0x1F7F0, ["aHEAVY EQUALS SIGN"]),
    (0x1F800, ["aLEFTWARDS ARROW WITH SMALL TRIANGLE ARROWHEAD",
      "aUPWARDS ARROW WITH SMALL TRIANGLE ARROWHEADaRIGHTWARDS ARROW WITH SMALL TRIANGLE ARROWHEAD",
      "aDOWNWARDS ARROW WITH SMALL TRIANGLE ARROWHEADaLEFTWARDS ARROW WITH MEDIUM TRIANGLE ARROWHEAD",
      "aUPWARDS ARROW WITH MEDIUM TRIANGLE ARROWHEADaRIGHTWARDS ARROW WITH MEDIUM TRIANGLE ARROWHEAD",
      "aDOWNWARDS ARROW WITH MEDIUM TRIANGLE ARROWHEADaLEFTWARDS ARROW WITH LARGE TRIANGLE ARROWHEAD",
      "aUPWARDS ARROW WITH LARGE TRIANGLE ARROWHEADaRIGHTWARDS ARROW WITH LARGE TRIANGLE ARROWHEAD",
      "aDOWNWARDS ARROW WITH LARGE TRIANGLE ARROWHEAD"]),
    (0x1F810, ["aLEFTWARDS ARROW WITH SMALL EQUILATERAL ARROWHEAD",
      "aUPWARDS ARROW WITH SMALL EQUILATERAL ARROWHEAD",
      "aRIGHTWARDS ARROW WITH SMALL EQUILATERAL ARROWHEAD",
      "aDOWNWARDS ARROW WITH SMALL EQUILATERAL ARROWHEADaLEFTWARDS ARROW WITH EQUILATERAL ARROWHEAD",
      "aUPWARDS ARROW WITH EQUILATERAL ARROWHEADaRIGHTWARDS ARROW WITH EQUILATERAL ARROWHEAD",
      "aDOWNWARDS ARROW WITH EQUILATERAL ARROWHEADaHEAVY LEFTWARDS ARROW WITH EQUILATERAL ARROWHEAD",
      "gUPWARDS ARROW WITH EQUILATERAL ARROWHEADgRIGHTWARDS ARROW WITH EQUILATERAL ARROWHEAD",
      "gDOWNWARDS ARROW WITH EQUILATERAL ARROWHEADgLEFTWARDS ARROW WITH LARGE EQUILATERAL ARROWHEAD",
      "gUPWARDS ARROW WITH LARGE EQUILATERAL ARROWHEAD",
      "gRIGHTWARDS ARROW WITH LARGE EQUILATERAL ARROWHEAD",
      "gDOWNWARDS ARROW WITH LARGE EQUILATERAL ARROWHEAD",
      "aLEFTWARDS TRIANGLE-HEADED ARROW WITH NARROW SHAFT",
      "aUPWARDS TRIANGLE-HEADED ARROW WITH NARROW SHAFT",
      "aRIGHTWARDS TRIANGLE-HEADED ARROW WITH NARROW SHAFT",
      "aDOWNWARDS TRIANGLE-HEADED ARROW WITH NARROW SHAFT",
      "aLEFTWARDS TRIANGLE-HEADED ARROW WITH MEDIUM SHAFT",
      "aUPWARDS TRIANGLE-HEADED ARROW WITH MEDIUM SHAFT",
      "aRIGHTWARDS TRIANGLE-HEADED ARROW WITH MEDIUM SHAFT",
      "aDOWNWARDS TRIANGLE-HEADED ARROW WITH MEDIUM SHAFT",
      "aLEFTWARDS TRIANGLE-HEADED ARROW WITH BOLD SHAFT",
      "aUPWARDS TRIANGLE-HEADED ARROW WITH BOLD SHAFT",
      "aRIGHTWARDS TRIANGLE-HEADED ARROW WITH BOLD SHAFT",
      "aDOWNWARDS TRIANGLE-HEADED ARROW WITH BOLD SHAFT",
      "aLEFTWARDS TRIANGLE-HEADED ARROW WITH HEAVY SHAFT",
      "aUPWARDS TRIANGLE-HEADED ARROW WITH HEAVY SHAFT",
      "aRIGHTWARDS TRIANGLE-HEADED ARROW WITH HEAVY SHAFT",
      "aDOWNWARDS TRIANGLE-HEADED ARROW WITH HEAVY SHAFT",
      "aLEFTWARDS TRIANGLE-HEADED ARROW WITH VERY HEAVY SHAFT",
      "aUPWARDS TRIANGLE-HEADED ARROW WITH VERY HEAVY SHAFT",
      "aRIGHTWARDS TRIANGLE-HEADED ARROW WITH VERY HEAVY SHAFT",
      "aDOWNWARDS TRIANGLE-HEADED ARROW WITH VERY HEAVY SHAFTaLEFTWARDS FINGER-POST ARROW",
      "aUPWARDS FINGER-POST ARROWaRIGHTWARDS FINGER-POST ARROWaDOWNWARDS FINGER-POST ARROW",
      "aLEFTWARDS SQUARED ARROWaUPWARDS SQUARED ARROWaRIGHTWARDS SQUARED ARROW",
      "aDOWNWARDS SQUARED ARROWaLEFTWARDS COMPRESSED ARROWaUPWARDS COMPRESSED ARROW",
      "aRIGHTWARDS COMPRESSED ARROWaDOWNWARDS COMPRESSED ARROWaLEFTWARDS HEAVY COMPRESSED ARROW",
      "aUPWARDS HEAVY COMPRESSED ARROWaRIGHTWARDS HEAVY COMPRESSED ARROW",
      "aDOWNWARDS HEAVY COMPRESSED ARROWaLEFTWARDS HEAVY ARROWaUPWARDS HEAVY ARROW",
      "aRIGHTWARDS HEAVY ARROWaDOWNWARDS HEAVY ARROW"]),
    (0x1F850, ["aLEFTWARDS SANS-SERIF ARROWaUPWARDS SANS-SERIF ARROWaRIGHTWARDS SANS-SERIF ARROW",
      "aDOWNWARDS SANS-SERIF ARROWaNORTH WEST SANS-SERIF ARROWgEAST SANS-SERIF ARROW",
      "aSOUTH EAST SANS-SERIF ARROWgWEST SANS-SERIF ARROWaLEFT RIGHT SANS-SERIF ARROW",
      "aUP DOWN SANS-SERIF ARROW"]),
    (0x1F860, ["aWIDE-HEADED LEFTWARDS LIGHT BARB ARROWmUPWARDS LIGHT BARB ARROW",
      "mRIGHTWARDS LIGHT BARB ARROWmDOWNWARDS LIGHT BARB ARROWmNORTH WEST LIGHT BARB ARROW",
      "sEAST LIGHT BARB ARROWmSOUTH EAST LIGHT BARB ARROWsWEST LIGHT BARB ARROWmLEFTWARDS BARB ARROW",
      "mUPWARDS BARB ARROWmRIGHTWARDS BARB ARROWmDOWNWARDS BARB ARROWmNORTH WEST BARB ARROW",
      "sEAST BARB ARROWmSOUTH EAST BARB ARROWsWEST BARB ARROWmLEFTWARDS MEDIUM BARB ARROW",
      "mUPWARDS MEDIUM BARB ARROWmRIGHTWARDS MEDIUM BARB ARROWmDOWNWARDS MEDIUM BARB ARROW",
      "mNORTH WEST MEDIUM BARB ARROWsEAST MEDIUM BARB ARROWmSOUTH EAST MEDIUM BARB ARROW",
      "sWEST MEDIUM BARB ARROWmLEFTWARDS HEAVY BARB ARROWmUPWARDS HEAVY BARB ARROW",
      "mRIGHTWARDS HEAVY BARB ARROWmDOWNWARDS HEAVY BARB ARROWmNORTH WEST HEAVY BARB ARROW",
      "sEAST HEAVY BARB ARROWmSOUTH EAST HEAVY BARB ARROWsWEST HEAVY BARB ARROW",
      "mLEFTWARDS VERY HEAVY BARB ARROWmUPWARDS VERY HEAVY BARB ARROW",
      "mRIGHTWARDS VERY HEAVY BARB ARROWmDOWNWARDS VERY HEAVY BARB ARROW",
      "mNORTH WEST VERY HEAVY BARB ARROWsEAST VERY HEAVY BARB ARROWmSOUTH EAST VERY HEAVY BARB ARROW",
      "sWEST VERY HEAVY BARB ARROW"]),
    (0x1F890, ["aLEFTWARDS TRIANGLE ARROWHEADaUPWARDS TRIANGLE ARROWHEAD",
      "aRIGHTWARDS TRIANGLE ARROWHEADaDOWNWARDS TRIANGLE ARROWHEAD",
      "aLEFTWARDS WHITE ARROW WITHIN TRIANGLE ARROWHEAD",
      "aUPWARDS WHITE ARROW WITHIN TRIANGLE ARROWHEAD",
      "aRIGHTWARDS WHITE ARROW WITHIN TRIANGLE ARROWHEAD",
      "aDOWNWARDS WHITE ARROW WITHIN TRIANGLE ARROWHEADaLEFTWARDS ARROW WITH NOTCHED TAIL",
      "aUPWARDS ARROW WITH NOTCHED TAILaRIGHTWARDS ARROW WITH NOTCHED TAIL",
      "aDOWNWARDS ARROW WITH NOTCHED TAILaHEAVY ARROW SHAFT WIDTH ONEyTWO THIRDSyONE HALF+cTHIRD",
      "aLEFTWARDS BOTTOM-SHADED WHITE ARROWaRIGHTWARDS BOTTOM SHADED WHITE ARROW",
      "aLEFTWARDS TOP SHADED WHITE ARROWaRIGHTWARDS TOP SHADED WHITE ARROW",
      "aLEFTWARDS LEFT-SHADED WHITE ARROWaRIGHTWARDS RIGHT-SHADED WHITE ARROW",
      "aLEFTWARDS RIGHT-SHADED WHITE ARROWaRIGHTWARDS LEFT-SHADED WHITE ARROW",
      "aLEFTWARDS BACK-TILTED SHADOWED WHITE ARROWaRIGHTWARDS BACK-TILTED SHADOWED WHITE ARROW",
      "aLEFTWARDS FRONT-TILTED SHADOWED WHITE ARROWaRIGHTWARDS FRONT-TILTED SHADOWED WHITE ARROW",
      "aWHITE ARROW SHAFT WIDTH ONEyTWO THIRDS"]),
    (0x1F8B0, ["aARROW POINTING UPWARDS THEN NORTH WESTpRIGHTWARDS THEN CURVING SOUTH WEST"]),
    (0x1F900, ["aCIRCLED CROSS FORMEE WITH FOUR DOTS+aTWO DOTSuaLEFT HALF CIRCLE WITH FOUR DOTS",
      "wTHREE DOTSxWO DOTSwDOTqaDOWNWARD FACING HOOKqNOTCHED HOOKqHOOK WITH DOT",
      "qNOTCHED HOOK WITH DOTaPINCHED FINGERSaWHITE HEARTaBROWN HEARTaPINCHING HAND",
      "aZIPPER-MOUTH FACEaMONEY-MOUTH FACEaFACE WITH THERMOMETERaNERD FACEaTHINKING FACE",
      "aFACE WITH HEAD-BANDAGEaROBOT FACEaHUGGING FACEaSIGN OF THE HORNSaCALL ME HAND",
      "aRAISED BACK OF HANDaLEFT-FACING FISTaRIGHT-FACING FISTaHANDSHAKE",
      "e WITH INDEX AND MIDDLE FINGERS CROSSEDaI LOVE YOU HAND SIGNaFACE WITH COWBOY HATaCLOWN FACE",
      "aNAUSEATED FACEaROLLING ON THE FLOOR LAUGHINGaDROOLING FACEaLYING FACEaFACE PALM",
      "aSNEEZING FACEaFACE WITH ONE EYEBROW RAISEDaGRINNING FACE WITH STAR EYES",
      "tONE LARGE AND ONE SMALL EYEaFACE WITH FINGER COVERING CLOSED LIPS",
      "aSERIOUS FACE WITH SYMBOLS COVERING MOUTH",
      "bMILING FACE WITH SMILING EYES AND HAND COVERING MOUTHaFACE WITH OPEN MOUTH VOMITING",
      "aSHOCKED FACE WITH EXPLODING HEADaPREGNANT WOMANaBREAST-FEEDINGaPALMS UP TOGETHERaSELFIE",
      "aPRINCEaMAN IN TUXEDObOTHER CHRISTMASaSHRUGaPERSON DOING CARTWHEELaJUGGLINGaFENCER",
      "aMODERN PENTATHLONaWRESTLERSbATER POLOaHANDBALLaDIVING MASKaWILTED FLOWER",
      "aDRUM WITH DRUMSTICKSaCLINKING GLASSESaTUMBLER GLASSaSPOONaGOAL NETaRIFLEaFIRST PLACE MEDAL",
      "aSECOND PLACE MEDALaTHIRD PLACE MEDALaBOXING GLOVEaMARTIAL ARTS UNIFORMaCURLING STONE",
      "aLACROSSE STICK AND BALLaSOFTBALLaFLYING DISCaCROISSANTaAVOCADOaCUCUMBERaBACONaPOTATOaCARROT",
      "aBAGUETTE BREADaGREEN SALADaSHALLOW PAN OF FOODbTUFFED FLATBREADaEGGaGLASS OF MILKaPEANUTS",
      "aKIWIFRUITaPANCAKESaDUMPLINGaFORTUNE COOKIEaTAKEOUT BOXaCHOPSTICKSaBOWL WITH SPOON",
      "aCUP WITH STRAWbOCONUTaBROCCOLIaPIEbRETZELaCUT OF MEATaSANDWICHaCANNED FOODaLEAFY GREENaMANGO",
      "bOON CAKEaBAGELaSMILING FACE WITH SMILING EYES AND THREE HEARTSaYAWNING FACE",
      "aSMILING FACE WITH TEARaFACE WITH PARTY HORN AND PARTY HATkUNEVEN EYES AND WAVY MOUTH",
      "aOVERHEATED FACEaFREEZING FACEaNINJAaDISGUISED FACEaFACE HOLDING BACK TEARS",
      "fWITH PLEADING EYESaSARIaLAB COATaGOGGLESaHIKING BOOTaFLAT SHOEaCRABaLION FACEaSCORPION",
      "aTURKEYaUNICORN FACEaEAGLEaDUCKaBATaSHARKaOWLaFOX FACEaBUTTERFLYaDEERaGORILLAaLIZARD",
      "aRHINOCEROSaSHRIMPbQUIDaGIRAFFE FACEaZEBRA FACEaHEDGEHOGaSAUROPODaT-REXaCRICKETaKANGAROO",
      "aLLAMAaPEACOCKaHIPPOPOTAMUSaPARROTaRACCOONaLOBSTERaMOSQUITObICROBEaBADGERaSWANaMAMMOTHaDODO",
      "aSLOTHaOTTERbRANGUTANaSKUNKaFLAMINGOaOYSTERaBEAVERbISONaSEALaGUIDE DOGaPROBING CANE",
      "aEMOJI COMPONENT RED HAIRqCURLY HAIRqBALDqWHITE HAIRaBONEaLEGaFOOTaTOOTHaSUPERHEROfVILLAIN",
      "bAFETY VESTaEAR WITH HEARING AIDaMOTORIZED WHEELCHAIRbANUAL WHEELCHAIRbECHANICAL ARMlLEG",
      "aCHEESE WEDGEbUPCAKEaSALT SHAKERaBEVERAGE BOXaGARLICaONIONaFALAFELaWAFFLEaBUTTERaMATE DRINK",
      "aICE CUBEaBUBBLE TEAaTROLLaSTANDING PERSONaKNEELING PERSONaDEAF PERSONaFACE WITH MONOCLE",
      "aADULTaCHILDaOLDER ADULTaBEARDED PERSONaPERSON WITH HEADSCARFhIN STEAMY ROOMhCLIMBING",
      "hIN LOTUS POSITIONaMAGEaFAIRYaVAMPIREaMERPERSONaELFaGENIEaZOMBIEaBRAINaORANGE HEART",
      "aBILLED CAPaSCARFaGLOVESaCOATaSOCKSaRED GIFT ENVELOPEaFIRECRACKERaJIGSAW PUZZLE PIECE",
      "aTEST TUBEaPETRI DISHaDNA DOUBLE HELIXaCOMPASSaABACUSaFIRE EXTINGUISHERaTOOLBOXaBRICKaMAGNET",
      "aLUGGAGEbOTION BOTTLEaSPOOL OF THREADaBALL OF YARNaSAFETY PINaTEDDY BEARaBROOMbASKET",
      "aROLL OF PAPERaBAR OF SOAPaSPONGEaRECEIPTaNAZAR AMULETbEUTRAL CHESS KINGoQUEENoROOKoBISHOP",
      "oKNIGHToPAWNaWHITE CHESS KNIGHT ROTATED FORTY-FIVE DEGREES",
      "aBLACK CHESS KNIGHT ROTATED FORTY-FIVE DEGREES",
      "aNEUTRAL CHESS KNIGHT ROTATED FORTY-FIVE DEGREESaWHITE CHESS KING ROTATED NINETY DEGREES",
      "mQUEEN ROTATED NINETY DEGREESmROOK ROTATED NINETY DEGREESmBISHOP ROTATED NINETY DEGREES",
      "mKNIGHT ROTATED NINETY DEGREESmPAWN ROTATED NINETY DEGREES",
      "aBLACK CHESS KING ROTATED NINETY DEGREESmQUEEN ROTATED NINETY DEGREES",
      "mROOK ROTATED NINETY DEGREESmBISHOP ROTATED NINETY DEGREESmKNIGHT ROTATED NINETY DEGREES",
      "mPAWN ROTATED NINETY DEGREESaNEUTRAL CHESS KING ROTATED NINETY DEGREES",
      "oQUEEN ROTATED NINETY DEGREESoROOK ROTATED NINETY DEGREESoBISHOP ROTATED NINETY DEGREES",
      "oKNIGHT ROTATED NINETY DEGREESoPAWN ROTATED NINETY DEGREES",
      "aWHITE CHESS KNIGHT ROTATED ONE HUNDRED THIRTY-FIVE DEGREES",
      "aBLACK CHESS KNIGHT ROTATED ONE HUNDRED THIRTY-FIVE DEGREES",
      "aNEUTRAL CHESS KNIGHT ROTATED ONE HUNDRED THIRTY-FIVE DEGREESaWHITE CHESS TURNED KINGtQUEEN",
      "tROOKtBISHOPtKNIGHTtPAWNaBLACK CHESS TURNED KINGtQUEENtROOKtBISHOPtKNIGHTtPAWN",
      "aNEUTRAL CHESS TURNED KINGvQUEENvROOKvBISHOPvKNIGHTvPAWN",
      "aWHITE CHESS KNIGHT ROTATED TWO HUNDRED TWENTY-FIVE DEGREES",
      "aBLACK CHESS KNIGHT ROTATED TWO HUNDRED TWENTY-FIVE DEGREES",
      "aNEUTRAL CHESS KNIGHT ROTATED TWO HUNDRED TWENTY-FIVE DEGREES",
      "aWHITE CHESS KING ROTATED TWO HUNDRED SEVENTY DEGREES",
      "mQUEEN ROTATED TWO HUNDRED SEVENTY DEGREESmROOK ROTATED TWO HUNDRED SEVENTY DEGREES",
      "mBISHOP ROTATED TWO HUNDRED SEVENTY DEGREESmKNIGHT ROTATED TWO HUNDRED SEVENTY DEGREES",
      "mPAWN ROTATED TWO HUNDRED SEVENTY DEGREES",
      "aBLACK CHESS KING ROTATED TWO HUNDRED SEVENTY DEGREES",
      "mQUEEN ROTATED TWO HUNDRED SEVENTY DEGREESmROOK ROTATED TWO HUNDRED SEVENTY DEGREES",
      "mBISHOP ROTATED TWO HUNDRED SEVENTY DEGREESmKNIGHT ROTATED TWO HUNDRED SEVENTY DEGREES",
      "mPAWN ROTATED TWO HUNDRED SEVENTY DEGREES",
      "aNEUTRAL CHESS KING ROTATED TWO HUNDRED SEVENTY DEGREES",
      "oQUEEN ROTATED TWO HUNDRED SEVENTY DEGREESoROOK ROTATED TWO HUNDRED SEVENTY DEGREES",
      "oBISHOP ROTATED TWO HUNDRED SEVENTY DEGREESoKNIGHT ROTATED TWO HUNDRED SEVENTY DEGREES",
      "oPAWN ROTATED TWO HUNDRED SEVENTY DEGREES",
      "aWHITE CHESS KNIGHT ROTATED THREE HUNDRED FIFTEEN DEGREES",
      "aBLACK CHESS KNIGHT ROTATED THREE HUNDRED FIFTEEN DEGREES",
      "aNEUTRAL CHESS KNIGHT ROTATED THREE HUNDRED FIFTEEN DEGREESaWHITE CHESS EQUIHOPPER",
      "aBLACK CHESS EQUIHOPPERaNEUTRAL CHESS EQUIHOPPER",
      "aWHITE CHESS EQUIHOPPER ROTATED NINETY DEGREESaBLACK CHESS EQUIHOPPER ROTATED NINETY DEGREES",
      "aNEUTRAL CHESS EQUIHOPPER ROTATED NINETY DEGREESaWHITE CHESS KNIGHT-QUEENtROOKtBISHOP",
      "aBLACK CHESS KNIGHT-QUEENtROOKtBISHOP"]),
    (0x1FA60, ["aXIANGQI RED GENERALmMANDARINmELEPHANTmHORSEmCHARIOTnANNONmSOLDIERiBLACK GENERAL",
      "oMANDARINoELEPHANToHORSEoCHARIOTpANNONoSOLDIER"]),
    (0x1FA70, ["aBALLET SHOESaONE-PIECE SWIMSUITaBRIEFSaSHORTSaTHONG SANDAL"]),
    (0x1FA78, ["aDROP OF BLOODaADHESIVE BANDAGEaSTETHOSCOPEaX-RAYaCRUTCH"]),
    (0x1FA80, ["aYO-YOaKITEaPARACHUTEaBOOMERANGaMAGIC WANDaPINATAaNESTING DOLLS"]),
    (0x1FA90, ["aRINGED PLANETaCHAIRaRAZORaAXEaDIYA LAMPaBANJOaMILITARY HELMETaACCORDIONaLONG DRUM",
      "aCOINbARPENTRY SAWaSCREWDRIVERaLADDERaHOOKaMIRRORaWINDOWaPLUNGERaSEWING NEEDLEaKNOTaBUCKET",
      "aMOUSE TRAPaTOOTHBRUSHaHEADSTONEaPLACARDaROCKaMIRROR BALLaIDENTIFICATION CARDaLOW BATTERY",
      "aHAMSA"]),
    (0x1FAB0, ["aFLYaWORMaBEETLEaCOCKROACHaPOTTED PLANTaWOODaFEATHERaLOTUSaCORALaEMPTY NEST",
      "aNEST WITH EGGS"]),
    (0x1FAC0, ["aANATOMICAL HEARTaLUNGSaPEOPLE HUGGINGbREGNANT MANjPERSONbERSON WITH CROWN"]),
    (0x1FAD0, ["aBLUEBERRIESbELL PEPPERaOLIVEaFLATBREADaTAMALEaFONDUEaTEAPOTaPOURING LIQUIDaBEANS",
      "aJAR"]),
    (0x1FAE0, ["aMELTING FACEaSALUTING FACEaFACE WITH OPEN EYES AND HAND OVER MOUTHkPEEKING EYE",
      "kDIAGONAL MOUTHaDOTTED LINE FACEaBITING LIPbUBBLES"]),
    (0x1FAF0, ["aHAND WITH INDEX FINGER AND THUMB CROSSEDaRIGHTWARDS HANDaLEFTWARDS HAND",
      "aPALM DOWN HANDfUP HANDaINDEX POINTING AT THE VIEWERaHEART HANDS"]),
    (0x1FB00, ["aBLOCK SEXTANT-1o2o12o3o13o23o123o4o14o24o124o34o134o234o1234o5o15o25o125o35o235",
      "o1235o45o145o245o1245o345o1345o2345o12345o6o16o26o126o36o136o236o1236o46o146p246o346o1346",
      "o2346o12346o56o156o256o1256o356o1356o2356o12356o456o1456o2456o12456o3456o13456o23456",
      "aLOWER LEFT BLOCK DIAGONAL LOWER MIDDLE LEFT TO LOWER CENTRE++bRIGHT",
      "+aUPPER MIDDLE LEFT TO LOWER CENTRE++bRIGHT+gLEFT TO LOWER CENTRE",
      "gRIGHT BLOCK DIAGONAL UPPER MIDDLE LEFT TO UPPER CENTRE++cRIGHT",
      "+bLOWER MIDDLE LEFT TO UPPER CENTRE++cRIGHT+hLEFT TO UPPER CENTRE",
      "+hMIDDLE LEFT TO UPPER MIDDLE RIGHT+hCENTRE TO LOWER MIDDLE RIGHT+hLEFT TO LOWER MIDDLE RIGHT",
      "+hCENTRE TO UPPER MIDDLE RIGHT+hLEFT TO UPPER MIDDLE RIGHT+hCENTRE TO UPPER RIGHT",
      "gLEFT BLOCK DIAGONAL UPPER CENTRE TO UPPER MIDDLE RIGHT+gLEFT TO UPPER MIDDLE RIGHT",
      "+gCENTRE TO LOWER MIDDLE RIGHT+gLEFT TO LOWER MIDDLE RIGHT+gCENTRE TO LOWER RIGHT",
      "+gMIDDLE LEFT TO LOWER MIDDLE RIGHT",
      "aUPPER RIGHT BLOCK DIAGONAL LOWER MIDDLE LEFT TO LOWER CENTRE++cRIGHT",
      "+bUPPER MIDDLE LEFT TO LOWER CENTRE++cRIGHT+hLEFT TO LOWER CENTRE",
      "gLEFT BLOCK DIAGONAL UPPER MIDDLE LEFT TO UPPER CENTRE++bRIGHT",
      "+aLOWER MIDDLE LEFT TO UPPER CENTRE++bRIGHT+gLEFT TO UPPER CENTRE",
      "+gMIDDLE LEFT TO UPPER MIDDLE RIGHT+gCENTRE TO LOWER MIDDLE RIGHT+gLEFT TO LOWER MIDDLE RIGHT",
      "+gCENTRE TO UPPER MIDDLE RIGHT+gLEFT TO UPPER MIDDLE RIGHT+gCENTRE TO UPPER RIGHT",
      "gRIGHT BLOCK DIAGONAL UPPER CENTRE TO UPPER MIDDLE RIGHT+hLEFT TO UPPER MIDDLE RIGHT",
      "+hCENTRE TO LOWER MIDDLE RIGHT+hLEFT TO LOWER MIDDLE RIGHT+hCENTRE TO LOWER RIGHT",
      "+hMIDDLE LEFT TO LOWER MIDDLE RIGHTgAND RIGHT AND LOWER TRIANGULAR THREE QUARTERS BLOCK",
      "aLEFT AND LOWER AND RIGHT TRIANGULAR THREE QUARTERS BLOCK",
      "aUPPER AND LEFT AND LOWER TRIANGULAR THREE QUARTERS BLOCK",
      "aLEFT AND UPPER AND RIGHT TRIANGULAR THREE QUARTERS BLOCKfTRIANGULAR ONE QUARTER BLOCK",
      "aUPPER TRIANGULAR ONE QUARTER BLOCKaRIGHT TRIANGULAR ONE QUARTER BLOCK",
      "aLOWER TRIANGULAR ONE QUARTER BLOCKaVERTICAL ONE EIGHTH BLOCK-2+a3+a4+a5+a6+a7",
      "aHORIZONTAL ONE EIGHTH BLOCK-2+c3+c4+c5+c6+c7aLEFT AND LOWER ONE EIGHTH BLOCK",
      "jUPPER ONE EIGHTH BLOCKaRIGHT AND UPPER ONE EIGHTH BLOCKkLOWER ONE EIGHTH BLOCK",
      "aUPPER AND LOWER ONE EIGHTH BLOCKaHORIZONTAL ONE EIGHTH BLOCK-1358aUPPER ONE QUARTER BLOCK",
      "gTHREE EIGHTHS BLOCKgFIVE EIGHTHS BLOCKgTHREE QUARTERS BLOCKgSEVEN EIGHTHS BLOCK",
      "aRIGHT ONE QUARTER BLOCKgTHREE EIGHTHS BLOCKgFIVE EIGHTHS BLOCKgTHREE QUARTERS BLOCK",
      "gSEVEN EIGHTHS BLOCKaLEFT HALF MEDIUM SHADEaRIGHT HALF MEDIUM SHADEaUPPER HALF MEDIUM SHADE",
      "aLOWER HALF MEDIUM SHADEaINVERSE MEDIUM SHADE",
      "aUPPER HALF BLOCK AND LOWER HALF INVERSE MEDIUM SHADE",
      "lINVERSE MEDIUM SHADE AND LOWER HALF BLOCK"]),
    (0x1FB94, ["aLEFT HALF INVERSE MEDIUM SHADE AND RIGHT HALF BLOCKaCHECKER BOARD FILL",
      "aINVERSE CHECKER BOARD FILLaHEAVY HORIZONTAL FILLaUPPER LEFT TO LOWER RIGHT FILL",
      "gRIGHT TO LOWER LEFT FILLgAND LOWER TRIANGULAR HALF BLOCK",
      "aLEFT AND RIGHT TRIANGULAR HALF BLOCKaUPPER LEFT TRIANGULAR MEDIUM SHADE",
      "gRIGHT TRIANGULAR MEDIUM SHADEaLOWER RIGHT TRIANGULAR MEDIUM SHADE",
      "gLEFT TRIANGULAR MEDIUM SHADEaBOX DRAWINGS LIGHT DIAGONAL UPPER CENTRE TO MIDDLE LEFT+zRIGHT",
      "+cMIDDLE LEFT TO LOWER CENTRE+jRIGHT TO LOWER CENTRE",
      "+cUPPER CENTRE TO MIDDLE LEFT TO LOWER CENTRE+zRIGHT TO LOWER CENTRE",
      "+cMIDDLE LEFT TO LOWER CENTRE TO MIDDLE RIGHT+rUPPER CENTRE TO MIDDLE RIGHT",
      "+cUPPER CENTRE TO MIDDLE LEFT AND MIDDLE RIGHT TO LOWER CENTRE",
      "+zRIGHT AND MIDDLE LEFT TO LOWER CENTRE++fTO LOWER CENTRE TO MIDDLE LEFT",
      "+zLEFT TO LOWER CENTRE TO MIDDLE RIGHT",
      "+cMIDDLE LEFT TO UPPER CENTRE TO MIDDLE RIGHT TO LOWER CENTRE",
      "+jRIGHT TO UPPER CENTRE TO MIDDLE LEFT TO LOWER CENTRE+cDIAMOND",
      "tHORIZONTAL WITH VERTICAL STROKEaARROWHEAD-SHAPED POINTERaINVERSE CHECK MARK",
      "aLEFT HALF RUNNING MANaRIGHT HALF RUNNING MANaINVERSE DOWNWARDS ARROW WITH TIP LEFTWARDS",
      "aLEFTWARDS ARROW AND UPPER AND LOWER ONE EIGHTH BLOCK",
      "aRIGHTWARDS ARROW AND UPPER AND LOWER ONE EIGHTH BLOCK",
      "aDOWNWARDS ARROW AND RIGHT ONE EIGHTH BLOCKaUPWARDS ARROW AND RIGHT ONE EIGHTH BLOCK",
      "aLEFT HALF FOLDERaRIGHT HALF FOLDERaVOIDED GREEK CROSSaRIGHT OPEN SQUARED DOT",
      "aNEGATIVE DIAGONAL CROSSsMIDDLE RIGHT TO LOWER CENTREsDIAMOND",
      "aWHITE HEAVY SALTIRE WITH ROUNDED CORNERSaLEFT THIRD WHITE RIGHT POINTING INDEX",
      "aMIDDLE THIRD WHITE RIGHT POINTING INDEXaRIGHT THIRD WHITE RIGHT POINTING INDEX",
      "aNEGATIVE SQUARED QUESTION MARKaSTICK FIGUREm WITH ARMS RAISEDnLEANING LEFTvRIGHTnWITH DRESS",
      "aWHITE UP-POINTING CHEVRON"]),
    (0x1FBF0, ["aSEGMENTED DIGIT ZEROqONEqTWOrHREEqFOURrIVEqSIXrEVENqEIGHTqNINE"]),
    (0xE0001, ["aLANGUAGE TAG"]),
    (0xE0020, ["aTAG SPACEeEXCLAMATION MARKeQUOTATION MARKeNUMBER SIGNeDOLLAR SIGNePERCENT SIGN",
      "eAMPERSANDfPOSTROPHEeLEFT PARENTHESISeRIGHT PARENTHESISeASTERISKePLUS SIGNeCOMMAeHYPHEN-MINUS",
      "eFULL STOPeSOLIDUSeDIGIT ZEROkONEkTWOlHREEkFOURlIVEkSIXlEVENkEIGHTkNINEeCOLONeSEMICOLON",
      "eLESS-THAN SIGNeEQUALS SIGNeGREATER-THAN SIGNeQUESTION MARKeCOMMERCIAL AT",
      "eLATIN CAPITAL LETTER AzBzCzDzEzFzGzHzIzJzKzLzMzNzOzPzQzRzSzTzUzVzWzXzYzZfEFT SQUARE BRACKET",
      "eREVERSE SOLIDUSfIGHT SQUARE BRACKETeCIRCUMFLEX ACCENTeLOW LINEeGRAVE ACCENT",
      "eLATIN SMALL LETTER AxBxCxDxExFxGxHxIxJxKxLxMxNxOxPxQxRxSxTxUxVxWxXxYxZfEFT CURLY BRACKET",
      "eVERTICAL LINEeRIGHT CURLY BRACKETeTILDEaCANCEL TAG"]),
    (0xE0100, ["aVARIATION SELECTOR-17u8u9t20u1u2u3u4u5u6u7u8u9t30u1u2u3u4u5u6u7u8u9t40u1u2u3u4u5u6",
      "u7u8u9t50u1u2u3u4u5u6u7u8u9t60u1u2u3u4u5u6u7u8u9t70u1u2u3u4u5u6u7u8u9t80u1u2u3u4u5u6u7u8u9t90",
      "u1u2u3u4u5u6u7u8u9t100v1v2v3v4v5v6v7v8v9u10v1v2v3v4v5v6v7v8v9u20v1v2v3v4v5v6v7v8v9u30v1v2v3v4",
      "v5v6v7v8v9u40v1v2v3v4v5v6v7v8v9u50v1v2v3v4v5v6v7v8v9u60v1v2v3v4v5v6v7v8v9u70v1v2v3v4v5v6v7v8",
      "v9u80v1v2v3v4v5v6v7v8v9u90v1v2v3v4v5v6v7v8v9t200v1v2v3v4v5v6v7v8v9u10v1v2v3v4v5v6v7v8v9u20v1",
      "v2v3v4v5v6v7v8v9u30v1v2v3v4v5v6v7v8v9u40v1v2v3v4v5v6v7v8v9u50v1v2v3v4v5v6"])]

end DocAudit.Text
