/-! The names of characters that begin with a letter from R to S. -/

namespace LineScript.Text

/-- The names that begin with the letters R and S, packed. -/
def namesRToS : String :=
  "aRABBITg FACEcCCOONdING CARhMOTORCYCLEcDICAL SYMBOL BOTTOMeOf BUTTONfACTIVE SIGNcILWAY CARiTRACKdNeBOW
dSED BACK OF HANDhCOMMAhDOTkTED INTERPOLATION MARKERhFISThHANDl WITH FINGERS SPLAYED
rPART BETWEEN MIDDLE AND RING FINGERShINTERPOLATION MARKERhMC SIGNiD SIGNiR SIGNhSQUAREcMcTdIOcZORbECEIPT
dORD SEPARATORdREATIONAL VEHICLEdYCLED PAPER SYMBOLgING SYMBOL FOR GENERIC MATERIALSvTYPE-1 PLASTICS
z-2 PLASTICSz-3 PLASTICSz-4 PLASTICSz-5 PLASTICSz-6 PLASTICSz-7 PLASTICScD APPLEeGIFT ENVELOPEcFERENCE MARK
cGIONAL INDICATOR SYMBOL LETTER Az LETTER Bz LETTER Cz LETTER Dz LETTER Ez LETTER Fz LETTER Gz LETTER H
z LETTER Iz LETTER Jz LETTER Kz LETTER Lz LETTER Mz LETTER Nz LETTER Oz LETTER Pz LETTER Qz LETTER R
z LETTER Sz LETTER Tz LETTER Uz LETTER Vz LETTER Wz LETTER Xz LETTER Yz LETTER ZeSTERED SIGN
cJANG CONSONANT SIGN HwNxGwRhLETTER AoBAoCAoDAoGAoHAoJAoKAoLAoMApBAoNApDApGAqGApYAqJAoPAoRAoSAoTAoWAoYA
hSECTION MARKhVIRAMAiOWEL SIGN AItUsEtAtUsIsOsUcLIEVED FACEcMINDER RIBBONcPLACEMENT CHARACTERcSPONSE
dTRICTED LEFT ENTRY-1w2fOOMcTURN LEFThRIGHThSYMBOLcVERSE CHECKER BOARDiINDEX
iLIGHT FOUR POINTED PINWHEEL STARkNE FEEDiSOLIDUSp OPERATORqPRECEDING SUBSETqWITH HORIZONTAL STROKE
iTILDE OPERATOR ABOVE LEFTWARDS ARROWzOVE RIGHTWARDS ARROWhD ANGLEo WITH UNDERBARjCOMMAjDOUBLE PRIME
v QUOTATION MARKqSTROKE NOT SIGNjEMPTY SETjFORKED PARAGRAPHOSjHAND WITH MIDDLE FINGER EXTENDEDjNOT SIGN
jPILCROW SIGNkRIMEjQUESTION MARKjRAISED HAND WITH FINGERS SPLAYEDkIGHT ANGLEkOTATED FLORAL HEART BULLET
jSANS-SERIF CAPITAL LkEMICOLONjTHUMBS DOWN SIGNqUP SIGNkILDEo EQUALSkRIPLE PRIMEjVICTORY HANDdOLVING HEARTS
bHINOCEROSbIcAL SIGNcBBONg ARROW DOWN LEFTsRIGHTnLEFT DOWNsUPnRIGHT DOWNtUPnUP LEFTqRIGHTcCE BALLfCRACKER
cFLEcGHT AND LOWER ONE EIGHTH BLOCKkUPPER ONE EIGHTH BLOCKiGER BUBBLEjLEl BRACKETt WITH DOT
mDOTTED SUBSTITUTION MARKERmSUBSTITUTION MARKERmVARIANT WITH SQUAREmWITH ARCrDOWNWARDS ZIGZAG ARROW
hRC GREATER-THAN BRACKETiROW WITH CIRCLED PLUSrSMALL CIRCLEgBLACK LENTICULAR BRACKETmTORTOISE SHELL BRACKET
gCEILINGhORNER BRACKEThURLY BRACKETt LOWER HOOKuMIDDLE PIECEuUPPER HOOKgDOTTED SUBSTITUTION BRACKET
iUBLE ANGLE BRACKEToRROW WITH ROUNDED HEADnPARENTHESISnQUOTATION MARKnWIGGLY FENCEgFISH TAIL
iVE EIGHTHS BLOCKhLOORgHALF BLACK CIRCLErSTARnOCKlFOLDERlMEDIUM SHADElRUNNING MANiND TELEPHONE RECEIVER
gLOW PARAPHRASE BRACKETgNORMAL FACTOR SEMIDIRECT PRODUCTgONE EIGHTH BLOCKkQUARTER BLOCKhPEN SQUARED DOT
hUTER JOINgPARENTHESISr EXTENSIONsLOWER HOOKsUPPER HOOKgRAISED OMISSION BRACKETgS-SHAPED BAG DELIMITER
hEMIDIRECT PRODUCTiVEN EIGHTHS BLOCKhIDEWAYS U BRACKETiNGLE QUOTATION MARKhPEAKERn WITH ONE SOUND WAVE
tTHREE SOUND WAVESjECH BUBBLEhQUARE BRACKETu EXTENSIONvLOWER CORNERvUPPER CORNERvWITH DOUBLE STROKEz QUILL
z STROKEz TICK IN BOTTOM CORNERz TICK IN TOP CORNERz UNDERBARhUBSTITUTION BRACKETgTACK
hHIRD WHITE RIGHT POINTING INDEXiOUGHT BUBBLEiREE EIGHTHS BLOCKmQUARTERS BLOCKhORTOISE SHELL BRACKET
hRANSPOSITION BRACKETiIANGLEo ABOVE LEFT TRIANGLEmULAR ONE QUARTER BLOCKgVERTICAL BAR WITH QUILLqOX LINE
gWHITE CORNER BRACKETnURLY BRACKETmLENTICULAR BRACKETmPARENTHESISmSQUARE BRACKETmTORTOISE SHELL BRACKET
hIGGLY FENCEf-FACING ARMENIAN ETERNITY SIGNnFISTnSVASTI SIGNy WITH DOTSgHANDED INTERLACED PENTAGRAM
gPOINTING ANGLE BRACKETpCURVED ANGLE BRACKETpDOUBLE ANGLE QUOTATION MARKpMAGNIFYING GLASS
gSHADED WHITE RIGHTWARDS ARROWhIDE ARC CLOCKWISE ARROWgTO-LEFT EMBEDDINGoISOLATEoMARKoOVERRIDE
fHAND INTERIOR PRODUCTfWARDS ARROWq ABOVE ALMOST EQUAL TOxREVERSE ALMOST EQUAL TOzVERSE TILDE OPERATOR
xSHORT LEFTWARDS ARROWxTILDE OPERATORsND UPPER AND LOWER ONE EIGHTH BLOCKrFROM BARz TO BLACK DIAMOND
rOVER LEFTWARDS ARROWrTHROUGH GREATER-THANzSUPERSETzXsO BARvLACK DIAMONDrWITH CORNER DOWNWARDSwDOTTED STEM
yUBLE VERTICAL STROKEwEQUILATERAL ARROWHEADwHOOKwLARGE TRIANGLE ARROWHEADxOOPwMEDIUM TRIANGLE ARROWHEAD
wNOTCHED TAILwPLUS BELOWwSMALL EQUILATERAL ARROWHEADzLL TRIANGLE ARROWHEADxTROKEwTAIL
zL WITH DOUBLE VERTICAL STROKEzL WITH VERTICAL STROKExIP DOWNWARDSz UPWARDSwVERTICAL STROKEq-TAIL
lBACK-TILTED SHADOWED WHITE ARROWmLACK ARROWrCIRCLED WHITE ARROWmOTTOM SHADED WHITE ARROWlCOMPRESSED ARROW
lDASHED ARROWmOUBLE ARROWx FROM BARyWITH STROKEzITH VERTICAL STROKEx-TAILsDASH ARROWlFINGER-POST ARROW
mRONT-TILTED SHADOWED WHITE ARROWlHANDnRPOON OVER LEFTWARDS HARPOON
tWITH BARB DOWN ABOVE LEFTWARDS HARPOON WITH BARB DOWNzARB DOWN BELOW LONG DASHzARB DOWN FROM BAR
zARB DOWN TO BARzARB DOWNWARDSzARB UP ABOVE LEFTWARDS HARPOON WITH BARB UPzARB UP ABOVE LONG DASH
zARB UP ABOVE RIGHTWARDS HARPOON WITH BARB DOWNzARB UP FROM BARzARB UP TO BARzARB UPWARDSmEAVY ARROW
rCOMPRESSED ARROWlLEFT-SHADED WHITE ARROWlOPEN-HEADED ARROWlPAIRED ARROWSlQUADRUPLE ARROW
lRIGHT-SHADED WHITE ARROWmOCKETlSANS-SERIF ARROWmQUARED ARROWoIGGLE ARROWlTOP SHADED WHITE ARROW
mRIANGLE ARROWHEADt-HEADED ARROWzD ARROW OVER LEFTWARDS TRIANGLE-HEADED ARROWzD ARROW TO BAR
zD ARROW WITH BOLD SHAFTzD ARROW WITH DOUBLE HORIZONTAL STROKEzD ARROW WITH DOUBLE VERTICAL STROKE
zD ARROW WITH HEAVY SHAFTzD ARROW WITH LONG TIP DOWNWARDSzD ARROW WITH LONG TIP UPWARDS
zD ARROW WITH MEDIUM SHAFTzD ARROW WITH NARROW SHAFTzD ARROW WITH VERY HEAVY SHAFTzD DASHED ARROW
zD PAIRED ARROWSoPLE ARROWsDASH ARROWmWO HEADED ARROWo-HEADED ARROW FROM BARzOW WITH DOUBLE VERTICAL STROKE
zOW WITH TAILzOW WITH TAIL WITH DOUBLE VERTICAL STROKEzOW WITH TAIL WITH VERTICAL STROKE
zOW WITH TRIANGLE ARROWHEADSzOW WITH VERTICAL STROKEwTRIPLE DASH ARROWlWAVE ARROWmHITE ARROWw FROM WALL
xWITHIN TRIANGLE ARROWHEADcNGe ABOVEfBUOYfEQUAL TOfIN EQUAL TOfOPERATORfPOINTeED PLANETeING BELL
cSING DIAGONAL CROSSING FALLING DIAGONALzSOUTH EAST ARROWbLEcIcMcObOASTED SWEET POTATOcBOT FACEcCKeET
cLL OF PAPEReED-UP NEWSPAPERfR COASTERhSKATEeING ON THE FLOOR LAUGHINGcMAN AS SIGNgCENTURIAL SIGN
gDENARIUS SIGNhIMIDIA SEXTULA SIGNhUPONDIUS SIGNgNUMERAL EIGHTpLEVENoFIFTYt EARLY FORMuTHOUSANDqVEs HUNDRED
tTHOUSANDpOURoNINEoONEr HUNDREDz THOUSANDsTHOUSANDzD C DoREVERSED ONE HUNDREDoSEVENpIXr LATE FORMoTEN
r THOUSANDpHREEpWELVEqOgQUINARIUS SIGNgSEMUNCIA SIGNiSTERTIUS SIGNiXTANS SIGNkULA SIGNhILIQUA SIGN
gUNCIA SIGNcOSTERcSEeTTEcTATED CAPITAL QiFLORAL HEART BULLETiHEAVY BLACK HEART BULLET
iLIGHT FOUR POINTED BLACK CUSPiWHITE FOUR POINTED CUSPcUND PUSHPINgTARGETfED SYMBOL FOR CAItFUtLUtSHOU
vUANGXItXIcWBOATbSbUBLE SIGNcGBY FOOTBALLcLE-DELAYEDcMI DIGIT EIGHTlFIVEmOURlNINElONElSEVENmIXlTHREEmWO
fFRACTION ONE HALFsQUARTERsTHIRDoTWO THIRDSfNUMBER EIGHT HUNDREDrYmFIFTYoVE HUNDREDnORTYoUR HUNDRED
mNINE HUNDREDqTYmONE HUNDREDmSEVEN HUNDREDrTYnIX HUNDREDpTYmTENnHIRTYoREE HUNDREDnWENTYoO HUNDRED
cNIC ARLAUG SYMBOLgBELGTHOR SYMBOLgCROSS PUNCTUATIONgLETTER AC AoESCoLGIZ EOLHXoNSUZ A
nBERKANAN BEORC BJARKAN BnCoALCoEALCpNoWEORTHnDoAGAZ DAEG DoOTTED-LuNuPnEoARoHWAZ EH EoNGoTHnFEHU FEOH FE F
oRANKS CASKET ACzT AESCzT EHzT ISzT OSnGoARoEBO GYFU GpRnHAEGL HpGLAZ HnICELANDIC-YRoNGqWAZoORoSAZ IS ISS I
oWAZ EOHnJERAN JnKoAUN KrAnLAUKAZ LAGU LOGR LoONG-BRANCH-AR AEzHAGALL HzMADR MzOSS OzYRnMANNAZ MAN M
nNAUDIZ NYD NAUD NnOoEoNoOoPEN-PoS OoTHALAN ETHEL OnPERTHO PEORTH PnQnRAIDO RAD REID RnSHpORT-TWIG-AR A
yBJARKAN ByHAGALL HyMADR MyNAUD NyOSS OySOL SyTYR TyYRoIGEL LONG-BRANCH-SOL SoOWILO SoTAN
nTHURISAZ THURS THORNoIWAZ TIR TYR TnURUZ UR UnVnWoUNJO WYNN WnXnYoRnZgMULTIPLE PUNCTUATION
gSINGLE PUNCTUATIONgTVIMADUR SYMBOLdNEReING SHIRT WITH SASHcPEE SIGNcSSIAN ASTROLOGICAL SYMBOL BINOVILE
zOL NOVILEzOL QUINTILEzOL SENTAGONzOL TREDECILEzOL VIGINTILEaS IN TRIANGLEbAFETY PINhVESTcGITTARIUScILBOAT
cKE BOTTLE AND CUPcLT SHAKEReIREdUTING FACEcMARITAN ABBREVIATION MARKkLETTER ALAFrBAAsITrDALATrFIrGAMANrINsT
sYrKAAFrLABATrMIMrNUNrQUFrRISHrSHANsINGAATrTAAFsITsSAADIYrYUTrZENkMARK DAGESHpEPENTHETIC YUTpINr-ALAF
pNEQUDAApOCCLUSIONlODIFIER LETTER EPENTHETIC YUTz Iz SHORT AkPUNCTUATION AFSAAQxNGEDyNAAUxRKAANUxTMAAUwBAU
wMELODIC QITSAwNEQUDAAwQITSAwSHIYYAALAAxOF MASHFAATwTURUwZAEFxIQAAkVOWEL SIGN AwAvEvIvLONG Az AAz Ez Iz UvO
wVERLONG AzLONG AAvSHORT AwUKUNvUcNDWICHdS-SERIF HEAVY DOUBLE COMMA QUOTATION MARK ORNAMENT
yTURNED COMMA QUOTATION MARK ORNAMENTrLOW DOUBLE COMMA QUOTATION MARK ORNAMENTlINTERROBANG ORNAMENTcRI
cTELLITEj ANTENNAdURNcURASHTRA CONSONANT SIGN HAARUlDANDAmIGIT EIGHTrFIVEsOURrNINErONErSEVENsIXrTHREEsWO
rZEROmOUBLE DANDAlLETTER AtAtItUsBAtHAsCAtHAsDAtDAuHAtHAsEtEsGAtHAsHAsItIsJAtHAsKAtHAsLAtLAsMAsNAtGAtNAtYAsO
tOsPAtHAsRAsSAtHAtSAsTAtHAtTAuHAsUtUsVAtOCALIC Lz LLz Rz RRsYAlSIGN ANUSVARAqCANDRABINDUqVIRAMAsSARGA
lVOWEL SIGN AAxIxUwExEwIxIwOxOwUxUwVOCALIC LzALIC LLzALIC RzALIC RReOPODcXOPHONEbCALESdRFcHOOLg SATCHELcI
cOOTERdRPIONgUScREENeWDRIVERdIPT CAPITAL BpEpFpHpIpLpMpPpRhLIGATURE ET ORNAMENThSMALL EnGnLnOdOLLdUPLEbEALdT
cCOND PLACE MEDALdTION SIGNeORcDNAcE-NO-EVIL MONKEYdDLINGcGMENThED DIGIT EIGHTqFIVErOURqNINEqONEqSEVENrIX
qTHREErWOqZEROcLFIEcMICOLONeDIRECT PRODUCT WITH BOTTOM CLOSEDeSEXTILEcPARATED SYMBOL
cRIOUS FACE WITH SYMBOLS COVERING MOUTHdVICE MARKcSAME DOTdQUIQUADRATEcT MINUSeTRANSMIT STATEcWING NEEDLE
cXTILEbGCbHADOWED WHITE CIRCLEpLATIN CROSSpSTARdLLOW PAN OF FOODdMROCKdRADA ABBREVIATION SIGN
iCONTINUATION SIGNiDANDAjIGIT EIGHToFIVEpOURoNINEoONEoSEVENpIXoTHREEpWOoZEROjOUBLE DANDAiEKAM
jXTRA SHORT VOWEL MARKiHEADSTROKEiLETTER AqAqIqUpBAqHApCAqHApDAqDArHAqHApEpGAqHApHApIqIpJAqHApKAqHApLAqLApMA
pNAqGAqNAqYApOpPAqHApRApSAqHAqSApTAqHAqTArHApUqUpVAqOCALIC LyLxRyRpYAiOMiSANDHI MARKjECTION MARK-1v2kPARATOR
jIGN ANUSVARAoVAGRAHAnCANDRABINDUnINVERTED CANDRABINDUnJIHVAMULIYAnNUKTAnSIDDHAMnUPADHMANIYAnVIRAMApSARGA
jUTRA MARKiVOWEL MODIFIER MARKoSIGN AAuIuUtEtIuItOtPRISHTHAMATRA EtUuUtVOCALIC LzC LLzC RzC RReKdVED ICE
eIAN LETTER ADOqGEqHqIRqRErRAYqSHqWEpBIBpCHURCHpDEADpEARrTqGGqRRpFEEpGAGpHA-HAqUNGpIANqCEqFpJUDGEpKICKpLOLL
pMEASUREqIMEpNUNpOAKqILqNqOZEqRqUTpPEEPpROARpSOqUREpTHEYrIGHqOTpUPpVOWpWOErOLpYEArWpZOOcEEPcIELDdFT INgOUT
dNTO SHRINEdPcOCKED FACE WITH EXPLODING HEADdOTING STARdPPING BAGSjTROLLEYdRT BACKSLANTED SOUTH ARROW
hENT ARROW POINTING DOWNWARDS THEN NORTH EASTgDOWN TACKp WITH OVERBARgLEFT TACK
gRIGHTWARDS ARROW ABOVE LEFTWARDS ARROWgSLANTED NORTH ARROWgUP TACKn ABOVE SHORT DOWN TACKoWITH UNDERBAR
fCAKEfHAND FORMAT CONTINUING OVERLAPrDOWN STEPrLETTER OVERLAPrUP STEPfSdULDERED OPEN BOXdWERcRIMPdUG
cUFFLE PRODUCTcYbIcDDHAM DANDAjOUBLE DANDAiEND OF TEXT MARKiLETTER AqAqIqLTERNATE UqUpBAqHApCAqHApDAqDArHA
qHApEpGAqHApHApIqIpJAqHApKAqHApLApMApNAqGAqNAqYApOpPAqHApRApSAqHAqSApTAqHArREE-CIRCLE ALTERNATE IqTArHA
qWO-CIRCLE ALTERNATE Iz ALTERNATE IIpUqUpVAqOCALIC LyLxRyRpYAiREPETITION MARK-1y2y3iSECTION MARK DOUBLE RING
zLE RING WITH RAYSvWITH CIRCLES AND FOUR ENCLOSURESz CIRCLES AND RAYSz CIRCLES AND TWO ENCLOSURES
z DOUBLE CRESCENTSz QUADRUPLE CRESCENTSz RAYS AND DOTTED CRESCENTSz RAYS AND DOTTED DOUBLE CRESCENTS
z RAYS AND DOTTED TRIPLE CRESCENTSz SEPTUPLE CRESCENTSz TRIDENT AND DOTTED CRESCENTS
z TRIDENT AND U-SHAPED ORNAMENTSz TRIPLE CRESCENTSkPARATOR BARsDOTjIGN ANUSVARAnCANDRABINDUnNUKTAnSIDDHAM
nVIRAMApSARGAiVOWEL SIGN AAuIuLTERNATE UzATE UUuUtEtIuItOtUuUtVOCALIC RzC RRdEWAYS BLACK DOWN POINTING INDEX
pLEFT POINTING INDEXpRIGHT POINTING INDEXpUP POINTING INDEXjWHITE DOWN POINTING INDEXpLEFT POINTING INDEX
pRIGHT POINTING INDEXpUP POINTING INDEXcGN OF THE HORNSeWRITING AIR BLOW SMALL ROTATIONSuING OUT
qSUCK SMALL ROTATIONSuING INmBREATH EXHALEtINHALEoUSH BETWEENsMULTIPLEsSINGLEmCHEEKS NEUTRALtPUFFEDtSUCKED
nOLONoMMAmDREAMY EYEBROWS DOWN NEUTRALzWS NEUTRAL DOWNzWS NEUTRAL UPzWS UP NEUTRALnYNAMIC ARROWHEAD LARGE
zHEAD SMALLuEVERY OTHER TIMEuFASTuGRADUALuRELAXEDuSIMULTANEOUSzTANEOUS ALTERNATINGvLOWuTENSEmEARSnXCITEMENT
nYE BLINK MULTIPLEwSINGLEqWINKpBROWS STRAIGHT DOWNzIGHT NEUTRALzIGHT UPpGAZE-FLOORPLANE CURVED
zPLANE STRAIGHTzPLANE STRAIGHT ALTERNATINGzPLANE STRAIGHT DOUBLEuWALLPLANE CIRCLINGzLANE CURVED
zLANE STRAIGHTzLANE STRAIGHT ALTERNATINGzLANE STRAIGHT DOUBLEpLASHES DOWNwFLUTTERINGwUPpS CLOSEDrHALF CLOSED
wOPENrOPENrSQUEEZEDrWIDE OPENvNING MOVEMENTmFACE DIRECTION POSITION NOSE FORWARD TILTING
zN POSITION NOSE UP OR DOWNzN POSITION NOSE UP OR DOWN TILTINGnILL MODIFIER-2z-3z-4z-5z-6oNGER
nLICK LARGE MULTIPLEySINGLEsSEQUENTIALtMALL MULTIPLEySINGLEoOORPLANE SHOULDER HIP MOVEnOREHEAD CONTACT
vNEUTRALvWRINKLEDnULL STOPmGRASP BETWEENsMULTIPLEsSINGLEmHAIRoND-ANGLEw INDEXzDEX MIDDLE LITTLE
zDEX MIDDLE RINGzDEX RING LITTLEzDEX RING LITTLE OUTzDEX THUMBzDEX THUMB INzDEX THUMB OUTxLITTLE INDEX
zTTLE INDEX THUMB INDEX THUMBzTTLE INDEX THUMB INDEX THUMB OUTzTTLE UPxMIDDLE RING LITTLE
zDDLE RING LITTLE INzDDLE RING LITTLE OUTxRING DOWN MIDDLE THUMB INDEX CROSSzNG LITTLErCIRCLEx INDEX
zNDEX BENTzNDEX HINGEzNDEX MIDDLEzNDEX MIDDLE CROSS LITTLEzNDEX MIDDLE CROSSEDzNDEX MIDDLE LITTLE
zNDEX MIDDLE RINGzNDEX MIDDLE THUMBzNDEX RING LITTLEyLITTLE INDEXzITTLE UPyMIDDLE RING LITTLE
zIDDLE RING LITTLE BENTzIDDLE UPyRING LITTLEsLAWv FOUR FINGERS CONJOINEDwINDEX THUMB CURVE THUMB INSIDE
wMIDDLE RING LITTLE CONJOINEDzDLE RING LITTLE CONJOINED SIDEwNO THUMBwTHUMB FORWARDzMB SIDEsUP
u FIVE FINGERS SPREADz FINGERS SPREAD OPENvINDEXzX RING LITTLEzX THUMBzX THUMB OPENvMIDDLE RING LITTLE
vNO THUMBvOPENz NO THUMBz THUMB FORWARDz THUMB SIDEvTHUMB FORWARDzB SIDEtRLICUEz INDEX RING LITTLE ON
z MIDDLE RING LITTLE ONz OPENrFISTv FOUR FINGERS CONJOINED BENTwHEELwINDEXzEX BENTzEX BENT OVER MIDDLE
zEX CUPPEDzEX HINGEDzEX HINGED LOWzEX HINGED MIDDLE UPzEX HINGED MIDDLE UP THUMB SIDEzEX MIDDLE
zEX MIDDLE BENTzEX MIDDLE BENT THUMB STRAIGHTzEX MIDDLE CONJOINEDzEX MIDDLE CONJOINED CUPPED
zEX MIDDLE CONJOINED CUPPED THUMB FORWARDzEX MIDDLE CONJOINED HINGEDzEX MIDDLE CONJOINED HINGED THUMB SIDE
zEX MIDDLE CONJOINED INDEX BENTzEX MIDDLE CONJOINED MIDDLE BENTzEX MIDDLE CONJOINED THUMB FORWARD
zEX MIDDLE CONJOINED THUMB SIDEzEX MIDDLE CONJOINED THUMB SIDE BENTzEX MIDDLE CONJOINED THUMB SIDE CONJOINED
zEX MIDDLE CROSS LITTLEzEX MIDDLE CROSSEDzEX MIDDLE CROSSED THUMB SIDEzEX MIDDLE HINGED
zEX MIDDLE HINGED SPREAD THUMB SIDEzEX MIDDLE LITTLEzEX MIDDLE RAISED KNUCKLESzEX MIDDLE RING
zEX MIDDLE RING BENTzEX MIDDLE RING CONJOINEDzEX MIDDLE STRAIGHT THUMB BENTzEX MIDDLE THUMB
zEX MIDDLE THUMB ANGLEDzEX MIDDLE THUMB ANGLED OUTzEX MIDDLE THUMB BENTzEX MIDDLE THUMB CIRCLED
zEX MIDDLE THUMB CONJOINED HINGEDzEX MIDDLE THUMB CUPPEDzEX MIDDLE THUMB HINGEDzEX MIDDLE THUMB HOOKED
zEX MIDDLE UP SPREAD THUMB FORWARDzEX RAISED KNUCKLEzEX RING LITTLEzEX THUMB ANGLED IN MIDDLE UP
zEX THUMB ANGLED OUT MIDDLE UPzEX THUMB CIRCLEzEX THUMB CIRCLED MIDDLE UPzEX THUMB CUPPED MIDDLE UP
zEX THUMB CURLICUEzEX THUMB CURVE THUMB INSIDEzEX THUMB CURVE THUMB UNDERzEX THUMB FORWARD INDEX BENT
zEX THUMB FORWARD INDEX STRAIGHTzEX THUMB HOOKzEX THUMB HOOKED MIDDLE HINGEDzEX THUMB HOOKED MIDDLE UP
zEX THUMB SIDEzEX THUMB SIDE BOTH BENTzEX THUMB SIDE INDEX BENTzEX THUMB SIDE INDEX HINGE
zEX THUMB SIDE THUMB BENTzEX THUMB SIDE THUMB CONJOINEDzEX THUMB SIDE THUMB DIAGONALzEX UP MIDDLE HINGED
zEX UP MIDDLE HINGED THUMB CONJOINEDzEX UP MIDDLE HINGED THUMB SIDEwLITTLE BENTzTLE DOWN
zTLE DOWN OTHERS CIRCLEDzTLE DOWN RIPPLE CURVEDzTLE DOWN RIPPLE STRAIGHTzTLE INDEXzTLE INDEX THUMB
zTLE RAISED KNUCKLEzTLE THUMBzTLE TOUCHES THUMBzTLE UPwMIDDLE BENT OVER INDEXzDLE DOWNzDLE LITTLE
zDLE RAISED KNUCKLEzDLE RING LITTLEzDLE THUMB ANGLED INDEX UPzDLE THUMB ANGLED OUT INDEX CROSSED
zDLE THUMB ANGLED OUT INDEX UPzDLE THUMB CIRCLED INDEX HINGEDzDLE THUMB CIRCLED INDEX UP
zDLE THUMB CUPPED INDEX UPzDLE THUMB HOOKED INDEX UPzDLE THUMB LITTLEzDLE UPzDLE UP THUMB SIDEwRING DOWN
zG INDEXzG LITTLEzG MIDDLEzG MIDDLE CONJOINEDzG MIDDLE RAISED KNUCKLESzG RAISED KNUCKLEzG THUMBzG UPwTHUMB
zMB BETWEEN INDEX MIDDLEzMB BETWEEN INDEX MIDDLE STRAIGHTzMB BETWEEN MIDDLE RINGzMB BETWEEN RING LITTLE
zMB FORWARDzMB HEELzMB OVER FOUR RAISED KNUCKLESzMB OVER TWO FINGERSzMB SIDE BENTzMB SIDE CONJOINED
zMB SIDE DIAGONALzMB UNDER FOUR FINGERSzMB UNDER INDEX BENTzMB UNDER LITTLE UPzMB UNDER THREE FINGERS
zMB UNDER TWO FINGERSsLATv BETWEEN PALM FACINGSwFIVE FINGERS SPREADzE FINGERS SPREAD BENT
zE FINGERS SPREAD FOUR BENTzE FINGERS SPREAD HINGEDzE FINGERS SPREAD HINGED NO THUMB
zE FINGERS SPREAD HINGED THUMB SIDEzE FINGERS SPREAD THUMB FORWARDxOUR FINGERSzR FINGERS BENT
zR FINGERS CONJOINEDzR FINGERS CONJOINED SPLITzR FINGERS HINGEDwHEELzL FIVE FINGERS SPREAD
zL FIVE FINGERS SPREAD BENTzL FIVE FINGERS SPREAD FOUR BENTzL THUMB SIDEwSPLIT CENTREzIT CENTRE THUMB SIDE
zIT CENTRE THUMB SIDE BENTzIT INDEX THUMB SIDEzIT LITTLEwTHUMB BENTzMB FORWARDzMB SIDErHINGE
w FIVE FINGERS SPREAD OPENyOUR FINGERS CONJOINEDxINDEXzDEX HINGEDzDEX MIDDLE LITTLEzDEX MIDDLE RING
zDEX MIDDLE RING CONJOINEDzDEX RING LITTLEzDEX THUMBzDEX THUMB LARGEzDEX THUMB OPENzDEX THUMB SIDE
zDEX THUMB SMALLxLITTLEzTTLE INDEXzTTLE INDEX THUMBzTTLE THUMBxMIDDLEzDDLE RING LITTLExNO THUMBxOPEN
zEN NO THUMBzEN THUMB FORWARDzEN THUMB SIDExRINGzNG DOWN INDEX THUMB HOOK MIDDLExSMALL
xTHUMB BETWEEN MIDDLE RINGzUMB SIDEzUMB SIDE TOUCHING INDEXsOOKv CURLICUEwINDEX RING LITTLE IN
zEX RING LITTLE OUTzEX RING LITTLE UNDERwMIDDLE RING LITTLE CONJOINEDzDLE RING LITTLE CONJOINED IN
zDLE RING LITTLE CONJOINED OUTzDLE THUMBwRING THUMBrOVALv FIVE FINGERS SPREADwINDEXwLITTLE UPwNO THUMB
wRING LITTLEwTHUMB FORWARDzMB SIDEnEADq MOVEMENT CIRCLEz-FLOORPLANE CURVEz-FLOORPLANE STRAIGHT
z-WALLPLANE CURVEz-WALLPLANE STRAIGHTz-WALLPLANE TILTrRIMmLIMB COMBINATIONrLENGTH-1y2y3y4y5y6y7
oP LOWER OVER UPPERqUPPER OVER LOWERpS PRESSED TOGETHERnOCATION DEPTHvHEAD NECKxIGHTvLIMBS DIGITSvTORSO
vWIDTHu-FLOORPLANE SPACEvWALLPLANE SPACEmMOUTH CLOSED CONTACTzFORWARDzNEUTRALtORNERSsFROWNx OPENyWRINKLED
sKISSw FORWARDxWRINKLEDsOPEN CIRCLExFORWARDxOVALzAL WRINKLEDzAL YAWNxRECTANGLEzCTANGLE WRINKLEDzCTANGLE YAWN
xWRINKLEDsSMILEx OPENyWRINKLEDsTENSEx FORWARDySUCKEDsWRINKLES DOUBLEzS SINGLEoVEMENT-DIAGONAL AWAY LARGE
zONAL AWAY LARGESTzONAL AWAY MEDIUMzONAL AWAY SMALLzONAL BETWEEN AWAY LARGEzONAL BETWEEN AWAY LARGEST
zONAL BETWEEN AWAY MEDIUMzONAL BETWEEN AWAY SMALLzONAL BETWEEN TOWARDS LARGEzONAL BETWEEN TOWARDS LARGEST
zONAL BETWEEN TOWARDS MEDIUMzONAL BETWEEN TOWARDS SMALLzONAL TOWARDS LARGEzONAL TOWARDS LARGEST
zONAL TOWARDS MEDIUMzONAL TOWARDS SMALLvFLOORPLANE ARM CIRCLE HITTING WALL LARGE DOUBLE
zRPLANE ARM CIRCLE HITTING WALL LARGE SINGLEzRPLANE ARM CIRCLE HITTING WALL MEDIUM DOUBLE
zRPLANE ARM CIRCLE HITTING WALL MEDIUM SINGLEzRPLANE ARM CIRCLE HITTING WALL SMALL DOUBLE
zRPLANE ARM CIRCLE HITTING WALL SMALL SINGLEzRPLANE BENDzRPLANE BOX LARGEzRPLANE BOX MEDIUMzRPLANE BOX SMALL
zRPLANE CHECKzRPLANE CORNER LARGEzRPLANE CORNER MEDIUMzRPLANE CORNER SMALLzRPLANE CROSS
zRPLANE CURVE COMBINEDzRPLANE CURVE HITTING CEILING LARGEzRPLANE CURVE HITTING CEILING SMALL
zRPLANE CURVE HITTING FLOOR LARGEzRPLANE CURVE HITTING FLOOR SMALLzRPLANE CURVE LARGEzRPLANE CURVE LARGEST
zRPLANE CURVE MEDIUMzRPLANE CURVE SMALLzRPLANE DOUBLE ALTERNATINGzRPLANE DOUBLE ALTERNATING WRIST FLEX
zRPLANE DOUBLE STRAIGHTzRPLANE DOUBLE WRIST FLEXzRPLANE FINGER CIRCLES HITTING WALL DOUBLE
zRPLANE FINGER CIRCLES HITTING WALL SINGLEzRPLANE FINGER CONTACTzRPLANE HUMP HITTING CEILING LARGE DOUBLE
zRPLANE HUMP HITTING CEILING LARGE TRIPLEzRPLANE HUMP HITTING CEILING SMALL DOUBLE
zRPLANE HUMP HITTING CEILING SMALL TRIPLEzRPLANE HUMP HITTING FLOOR LARGE DOUBLE
zRPLANE HUMP HITTING FLOOR SMALL DOUBLEzRPLANE HUMP HITTING FLOOR TRIPLE LARGE TRIPLE
zRPLANE HUMP HITTING FLOOR TRIPLE SMALL TRIPLEzRPLANE HUMP SMALLzRPLANE JAW
zRPLANE LOOP HITTING CEILING LARGE DOUBLEzRPLANE LOOP HITTING CEILING LARGE SINGLE
zRPLANE LOOP HITTING CEILING SMALL DOUBLEzRPLANE LOOP HITTING CEILING SMALL SINGLE
zRPLANE LOOP HITTING FLOOR LARGE DOUBLEzRPLANE LOOP HITTING FLOOR LARGE SINGLE
zRPLANE LOOP HITTING FLOOR SMALL DOUBLEzRPLANE LOOP HITTING FLOOR SMALL SINGLEzRPLANE LOOP SMALL
zRPLANE PEAKS LARGEzRPLANE PEAKS MEDIUMzRPLANE PEAKS SMALLzRPLANE SHAKING PARALLEL
zRPLANE SINGLE STRAIGHT LARGEzRPLANE SINGLE STRAIGHT LARGESTzRPLANE SINGLE STRAIGHT MEDIUM
zRPLANE SINGLE STRAIGHT SMALLzRPLANE SINGLE WRIST FLEXzRPLANE TRIPLE ALTERNATING MOVEMENT
zRPLANE TRIPLE ALTERNATING WRIST FLEXzRPLANE TRIPLE STRAIGHT MOVEMENTzRPLANE TRIPLE WRIST FLEX
zRPLANE WAVE HITTING CEILING LARGEzRPLANE WAVE HITTING CEILING SMALLzRPLANE WAVE HITTING FLOOR LARGE
zRPLANE WAVE HITTING FLOOR SMALLzRPLANE WAVE LARGEzRPLANE WAVE SMALLzRPLANE WAVE SNAKE
zRPLANE WRIST CIRCLE HITTING WALL DOUBLEzRPLANE WRIST CIRCLE HITTING WALL SINGLEzRPLANE ZIGZAG LARGE
zRPLANE ZIGZAG MEDIUMzRPLANE ZIGZAG SMALLvHINGE DOWN SEQUENTIALzE SIDE TO SIDE SCISSORS
zE UP DOWN ALTERNATING LARGEzE UP DOWN ALTERNATING SMALLzE UP DOWN LARGEzE UP DOWN SMALLzE UP SEQUENTIAL
vWALLPLANE ARM CIRCLE MEDIUM DOUBLEzPLANE ARM CIRCLE MEDIUM SINGLEzPLANE ARM CIRCLE SMALL DOUBLE
zPLANE ARM CIRCLE SMALL SINGLEzPLANE BEND LARGEzPLANE BEND MEDIUMzPLANE BEND SMALLzPLANE BOX LARGE
zPLANE BOX MEDIUMzPLANE BOX SMALLzPLANE CHECK LARGEzPLANE CHECK MEDIUMzPLANE CHECK SMALLzPLANE CORNER LARGE
zPLANE CORNER MEDIUMzPLANE CORNER ROTATIONzPLANE CORNER SMALLzPLANE CROSSzPLANE CURVE HALF-CIRCLE LARGE
zPLANE CURVE HALF-CIRCLE LARGESTzPLANE CURVE HALF-CIRCLE MEDIUMzPLANE CURVE HALF-CIRCLE SMALL
zPLANE CURVE HITTING CHESTzPLANE CURVE HITTING FRONT WALLzPLANE CURVE QUARTER LARGE
zPLANE CURVE QUARTER LARGESTzPLANE CURVE QUARTER MEDIUMzPLANE CURVE QUARTER SMALLzPLANE CURVE THEN STRAIGHT
zPLANE CURVE THREE-QUARTER CIRCLE MEDIUMzPLANE CURVE THREE-QUARTER CIRCLE SMALLzPLANE CURVED CROSS MEDIUM
zPLANE CURVED CROSS SMALLzPLANE DOUBLE ALTERNATINGzPLANE DOUBLE ALTERNATING WRIST FLEXzPLANE DOUBLE STRAIGHT
zPLANE DOUBLE WRIST FLEXzPLANE FINGER CIRCLES DOUBLEzPLANE FINGER CIRCLES SINGLEzPLANE FINGER CONTACT
zPLANE HUMP HITTING CHESTzPLANE HUMP HITTING FRONT WALLzPLANE HUMP LARGEzPLANE HUMP MEDIUMzPLANE HUMP SMALL
zPLANE JAWzPLANE LOOP HITTING CHESTzPLANE LOOP HITTING FRONT WALLzPLANE LOOP LARGEzPLANE LOOP MEDIUM
zPLANE LOOP SMALLzPLANE LOOP SMALL DOUBLEzPLANE PEAKS LARGEzPLANE PEAKS MEDIUMzPLANE PEAKS SMALL
zPLANE SHAKINGzPLANE SINGLE STRAIGHT LARGEzPLANE SINGLE STRAIGHT LARGESTzPLANE SINGLE STRAIGHT MEDIUM
zPLANE SINGLE STRAIGHT SMALLzPLANE SINGLE WRIST FLEXzPLANE TRIPLE ALTERNATING
zPLANE TRIPLE ALTERNATING WRIST FLEXzPLANE TRIPLE STRAIGHT MOVEMENTzPLANE TRIPLE WRIST FLEX
zPLANE WAVE CURVE DOUBLE LARGEzPLANE WAVE CURVE DOUBLE MEDIUMzPLANE WAVE CURVE DOUBLE SMALL
zPLANE WAVE CURVE TRIPLE LARGEzPLANE WAVE CURVE TRIPLE MEDIUMzPLANE WAVE CURVE TRIPLE SMALL
zPLANE WAVE DIAGONAL PATH LARGEzPLANE WAVE DIAGONAL PATH MEDIUMzPLANE WAVE DIAGONAL PATH SMALL
zPLANE WAVE HITTING CHESTzPLANE WAVE HITTING FRONT WALLzPLANE WRIST CIRCLE FRONT DOUBLE
zPLANE WRIST CIRCLE FRONT SINGLEzPLANE ZIGZAG LARGEzPLANE ZIGZAG MEDIUMzPLANE ZIGZAG SMALLmNECKnOSE CONTACT
rNEUTRALrWIGGLESsRINKLESmPARENTHESISmROTATION MODIFIER-10zFIER-11zFIER-12zFIER-13zFIER-14zFIER-15zFIER-16
zFIER-2zFIER-3zFIER-4zFIER-5zFIER-6zFIER-7zFIER-8zFIER-9u-FLOORPLANE ALTERNATING
zRPLANE ALTERNATING HITTING CEILINGzRPLANE ALTERNATING HITTING FLOORzRPLANE DOUBLE
zRPLANE DOUBLE HITTING CEILINGzRPLANE DOUBLE HITTING FLOORzRPLANE SINGLEzRPLANE SINGLE HITTING CEILING
zRPLANE SINGLE HITTING FLOORvWALLPLANE ALTERNATEzPLANE ALTERNATING HITTING CHEST
zPLANE ALTERNATING HITTING FRONT WALLzPLANE DOUBLEzPLANE DOUBLE HITTING CHEST
zPLANE DOUBLE HITTING FRONT WALLzPLANE SINGLEzPLANE SINGLE HITTING CHESTzPLANE SINGLE HITTING FRONT WALL
nUB BETWEENqMULTIPLEqSINGLEmSEMICOLONnHOULDER HIP POSITIONSzSPINEvTILTING FROM WAIST
nQUEEZE FLICK ALTERNATINGuLARGE MULTIPLEz SINGLEuSEQUENTIALvMALL MULTIPLEz SINGLEnTRIKE BETWEENtMULTIPLE
tSINGLEnURFACE BETWEENuSYMBOLSmTEETHr BITE LIPSsMOVEMENTsON LIPSz MOVEMENTvTONGUEzUE MOVEMENT
oNSE CHEEKS HIGHzLOWzMIDDLEnONGUE CENTRE INSIDE MOUTHz STICKING OUTtINSIDE MOUTH RELAXEDtLICKING LIPS
tMOVES AGAINST CHEEKtSTICKING OUT FARtTIP BETWEEN LIPSxTOUCHING INSIDE MOUTHoRSO-FLOORPLANE TWISTING
sWALLPLANE CURVED BENDzNE STRAIGHT STRETCHoUCH BETWEENsMULTIPLEsSINGLE
nRAVEL-FLOORPLANE ROTATION-FLOORPLANE ALTERNATINGzLANE ROTATION-FLOORPLANE DOUBLE
zLANE ROTATION-FLOORPLANE SINGLEzLANE ROTATION-WALLPLANE ALTERNATINGzLANE ROTATION-WALLPLANE DOUBLE
zLANE ROTATION-WALLPLANE SINGLEzLANE SHAKINGtWALLPLANE ARM SPIRAL DOUBLEzANE ARM SPIRAL SINGLE
zANE ARM SPIRAL TRIPLEzANE ROTATION-FLOORPLANE ALTERNATINGzANE ROTATION-FLOORPLANE DOUBLE
zANE ROTATION-FLOORPLANE SINGLEzANE ROTATION-WALLPLANE ALTERNATINGzANE ROTATION-WALLPLANE DOUBLE
zANE ROTATION-WALLPLANE SINGLEzANE SHAKINGmUPPER BODY TILTING FROM HIP JOINTSmWALLPLANE SHOULDER HIP MOVE
cLHOUETTE OF JAPANcMILAR ABOVE GREATER-THAN ABOVE EQUALS SIGNoLESS-THAN ABOVE EQUALS SIGNiMINUS SIMILAR
iOR GREATER-THANlLESS-THANcNE WAVEdGLE CHARACTER INTRODUCERhGRAPHIC CHARACTER INTRODUCER
hHIGH-REVERSED-9 QUOTATION MARKhLEFT-POINTING ANGLE QUOTATION MARKiOW-9 QUOTATION MARK
hRIGHT-POINTING ANGLE QUOTATION MARKhSHIFT THREEoWOg-SHIFT-2n3dHALA ARCHAIC DIGIT EIGHTwFIVExOURwNINEwONE
wSEVENxIXwTHREExWOqNUMBER EIGHTYxFIFTYyORTYxNINETYxONE HUNDREDzE THOUSANDxSEVENTYyIXTYxTENyHIRTYyWENTY
iLETTER AAYANNAqEEYANNArYANNAqIYANNAqLPAPRAANA BAYANNAz CAYANNAz DAYANNAz DDAYANNAz GAYANNAz JAYANNA
z KAYANNAz PAYANNAz TAYANNAz TTAYANNAqMBA BAYANNAqUYANNAqYANNApDANTAJA LAYANNAxNAYANNAxSAYANNApEEYANNAqYANNA
pFAYANNApHAYANNApIIYANNAqLUUYANNAsYANNAqRUUYANNAsYANNAqYANNApKANTAJA NAASIKYAYApMAHAAPRAANA BAYANNA
zA CAYANNAzA DAYANNAzA DDAYANNAzA GAYANNAzA JAYANNAzA KAYANNAzA PAYANNAzA TAYANNAzA TTAYANNArYANNA
qUURDHAJA LAYANNAzNAYANNAzSAYANNApOOYANNAqYANNApRAYANNApSANYAKA DAYANNAyDAYANNAxGAYANNAxJAYANNA
pTAALUJA NAASIKYAYAxSANYOOGA NAAKSIKYAYAzYANNApUUYANNAqYANNApVAYANNApYAYANNAjITH DIGIT EIGHTtFIVEuOURtNINE
tONEtSEVENuIXtTHREEuWOtZEROiPUNCTUATION KUNDDALIYAiSIGN AL-LAKUNAoNUSVARAYAnCANDRABINDUnVISARGAYA
iVOWEL SIGN AELA-PILLAtDIGA AEDA-PILLAyGAETTA-PILLAzAYANUKITTAyIS-PILLAyKOMBUVAyPAA-PILLAtGAETTA-PILLA
vYANUKITTAtKETTI AEDA-PILLAzIS-PILLAzPAA-PILLAuOMBU DEKAyVAzA HAA AELA-PILLAzA HAA DIGA AELA-PILLA
zA HAA GAYANUKITTAcX PETALLED BLACK AND WHITE FLORETTEfOINTED BLACK STARmPINWHEEL STARmSTAR WITH MIDDLE DOT
d-PER-EM SPACEdTEEN POINTED ASTERISKbKATEBOARDcI AND SKI BOOTdERcULLf AND CROSSBONESdNK
bLANTED EQUAL TO OR GREATER-THANzER-THAN WITH DOT INSIDEuLESS-THANzTHAN WITH DOT INSIDE
iNORTH ARROW WITH HOOKED HEADzHORIZONTAL TAILdVONIC ASTERISKcEDdEPING ACCOMMODATIONjFACEjSYMBOLfY FACE
dUTH OR SPYcICE OF PIZZAdGHTLY FROWNING FACEjSMILING FACEcOPEeING LARGE ANDoORdT MACHINEeHbMALL AIRPLANE
hMPERSANDhSTERISKgBLUE DIAMONDgCOLONiMMAkERCIAL ATiNTAINS AS MEMBERpWITH OVERBAR
uVERTICAL BAR AT END OF HORIZONTAL STROKEgDOLLAR SIGNgELEMENT OFq WITH OVERBAR
wVERTICAL BAR AT END OF HORIZONTAL STROKEhM DASHhQUALS SIGNhXCLAMATION MARKgFULL STOPgGREATER-THAN SIGN
gHYPHEN-MINUSgIDEOGRAPHIC COMMAgLEFT CURLY BRACKETlPARENTHESISlTORTOISE SHELL BRACKETiSS-THAN SIGN
gNUMBER SIGNgORANGE DIAMONDgPERCENT SIGNhLUS SIGNgQUESTION MARKgREVERSE SOLIDUShIGHT CURLY BRACKET
mPARENTHESISmTORTOISE SHELL BRACKEThOMAN NUMERAL EIGHTvLEVENuFIFTYwVEy HUNDREDvOURuNINEuONEx HUNDRED
yTHOUSANDuSEVENvIXuTENvHREEvWELVEwOgSEMICOLONgTILDEhWO DOTS OVER ONE DOT PUNCTUATIONgVEE WITH UNDERBAR
fER THANm OR EQUAL TOdSH PRODUCTcILEeING CAT FACE WITH HEART-SHAPED EYESwOPEN MOUTHiFACE WITH HALO
tEART-SHAPED EYEStORNSsOPEN MOUTHzUTH AND COLD SWEATzUTH AND SMILING EYESzUTH AND TIGHTLY-CLOSED EYES
sSMILING EYESz EYES AND HAND COVERING MOUTHz EYES AND THREE HEARTStUNGLASSESsTEARdRKING FACEcOKING SYMBOL
bNAILdKEcEEZING FACEcOW CAPPED MOUNTAINeBOARDEReFLAKEeMANh WITHOUT SNOWbOcCCER BALLdKScFT HYPHENfICE CREAM
fSHELL FLOPPY DISKeBALLeWARE-FUNCTION SYMBOLcGDIAN COMBINING CURVE ABOVEyBELOWsDOT ABOVEwBELOWsHOOK ABOVE
xBELOWsLONG HOOK BELOWsRESH BELOWsSTROKE BELOWsTWO DOTS ABOVEzS BELOWiINDEPENDENT SHINiLETTER ALEPHqYINpBETH
pFETHpGIMELpHErTHpKAPHpLAMEDHqESHpMEMpNUNpPEpRESH-AYINpSADHErMEKHqHINpTAWpWAWpYODHpZAYINiNUMBER ONEs HUNDRED
pTENqWENTYiPUNCTUATION CIRCLE WITH DOTuHALF CIRCLE WITH DOTuTWO CIRCLES WITH DOTSyVERTICAL BARS
zERTICAL BARS WITH DOTScHcLID QUILT SQUARE ORNAMENTzNT IN BLACK SQUAREfUSh WITH OVERBARcM SIGN
cON WITH RIGHTWARDS ARROW ABOVEcRA SOMPENG DIGIT EIGHTtFIVEuOURtNINEtONEtSEVENuIXtTHREEuWOtZEROnLETTER AH
uBAHuCAHuDAHuEEHvHuGAHuHAHuIHuJAHuKAHuLAHuMAEwHuNAHvGAHvYAHuOHuPAHuRAHuSAHuTAHuUHuVAHuYAHcS
cUND RECORDING COPYRIGHTdTH EAST ARROWq AND SOUTH WEST ARROWrCROSSING NORTH EAST ARROWrTO CORNERrWITH HOOK
lBLACK ARROWlDOUBLE ARROWlPOINTING BUDuLEAFuVINE LEAFlSANS-SERIF ARROWlTRIANGLE-HEADED ARROWzD ARROW TO BAR
lWHITE ARROWgWEST ARROWq AND NORTH WEST ARROWrWITH HOOKlBLACK ARROWlDOUBLE ARROWlPOINTING BUDuLEAFuVINE LEAF
lSANS-SERIF ARROWlTRIANGLE-HEADED ARROWzD ARROW TO BARlWHITE ARROWcYOMBO CLUSTER-INITIAL LETTER LAzETTER RA
zETTER SAzETTER SHAiFINAL CONSONANT SIGN -AzIGN BzIGN DzIGN GzIGN KzIGN LzIGN MzIGN NzIGN NGzIGN RzIGN S
zIGN SHiGEMINATION MARKiHEAD MARK WITH MOON AND SUNzON AND SUN AND FLAMEzON AND SUN AND TRIPLE FLAME
iLETTER -ApApBAqHApCAqHApDAqDArHAqHAqZApGAqHApHApJAqHApKAqHAqSSApLApMApNAqGAqNAqYApPAqHApRApSAqHAqSApTAqHA
qSArHAqTArHApVApYApZAqHAiMARK DOUBLE SHADnPLUTAnSHADnTSHEGiSIGN ANUSVARAnJIHVAMULIYAnUPADHMANIYAnVISARGA
jUBJOINERiTERMINAL MARK-1w2iVOWEL LENGTH MARKoSIGN AIuUtEtItOuEtUuEtVOCALIC LzC RbPcAdCEdGHETTIdRKLEhS
gING HEARTcEAK-NO-EVIL MONKEYfERh WITH CANCELLATION STROKEnONE SOUND WAVEnTHREE SOUND WAVES
fING HEAD IN SILHOUETTEdECH BALLOONeDBOATdSMILO SIGNcHERICAL ANGLEp OPENING LEFTyUPcIDERg WEB
dRAL CALENDAR PADhNOTE PADhSHELLcLASHING SWEAT SYMBOLcONGEdOL OF THREADeNdRTS MEDALdUTING WHALE
bQUARE A OVER MiARUiMiNPEAiPAATOiRUHUAiUhBAARERUjRiEETAiIRUiORUTOiQiUSSYERUhC OVER KGiALjPiCiDiMj CUBED
kSQUAREDiOjRPORATIONiUPhDAjASUiBiESIiJiLiMj CUBEDkSQUAREDiORUhEEKAAiRA NAME HEISEIqMEIZIqREIWAqSYOUWA
qTAISYOUjGiSUKUUDOiVhFMiOOTjUR CORNERShGALjNMAjRONiBiHZiIGAjNIIjRUDAAiPAiURAMUnTONiYhHAjITUiEKUTAARUjRUTUiG
iIRAGANA HOKAiONjONkRUiPjAiUARADDOjIITOjRANiZhIMAGE OFp OR EQUAL TOtNOT EQUAL TOiNjINGUjTIiUhK OHMiAjIRI
jRATTOkORIIiBiCALiEESUiGiHZiIROlGURAMUlMEETORUlWATTOiKiLiMj CAPITALlUBEDkSQUAREDiOOPOjRUNAiPAiTiUROONE
kUZEIROiViWiYURIIhLEFT OPEN BOX OPERATORiMiNiOGjZENGEiXhM CUBEDjOHMkVER Sp SQUAREDjSQUAREDiAjHHAjIKUROkRU
jNSYONjRUKUiBj SMALLiEETORUjGAlTONiGiHZiIKURONjLjRIlBAARUiLiMj CUBEDkSQUAREDiOLiPAiSiU AkFkGkLkMkSkVkWiV
j MEGAiWj MEGAhNAjNOiFiMiOTTOiSiViWhONSUiOMUiRIGINAL OFs OR EQUAL TOwNOT EQUAL TOiVhPAj AMPSjASENTOkTUiC
iEEZIjNIHIkSUjSOiFiHiIASUTORUjKOkURUiMiOINTOjNDOjSITION INDICATORiPMiRiSiViWhRADk OVER Sr SQUAREDiEMUjNTOGEN
iIGHT OPEN BOX OPERATORjRAjTTORUiOOTiUPIIjUBURUhSAIKURUjNTIIMUiENTIlOiIRINGUiRiVhTARGETiHZiONhUONhV OVER M
hWATTOiBiITH BOTTOM HALF BLACKmCONTOURED OUTLINEmDIAGONAL CROSSHATCH FILLmHORIZONTAL FILLmLEFT HALF BLACK
nOWER LEFT DIAGONAL HALF BLACKsRIGHT DIAGONAL HALF BLACKmORTHOGONAL CROSSHATCH FILLmRIGHT HALF BLACK
mTOP HALF BLACKmUPPER LEFT DIAGONAL HALF BLACKxTO LOWER RIGHT FILLsRIGHT DIAGONAL HALF BLACK
yTO LOWER LEFT FILLmVERTICAL FILLhYAADOkRUiUANgD ASTERISKiCJK UNIFIED IDEOGRAPH-4E00zRAPH-4E09zRAPH-4E2D
zRAPH-4E8CzRAPH-4EA4zRAPH-518DzRAPH-521DzRAPH-524DzRAPH-5272zRAPH-53CCzRAPH-53F3zRAPH-5408zRAPH-5439
zRAPH-55B6zRAPH-58F0zRAPH-591AzRAPH-5929zRAPH-5B57zRAPH-5DE6zRAPH-5F8CzRAPH-624BzRAPH-6253zRAPH-6295
zRAPH-6307zRAPH-6355zRAPH-6599zRAPH-65B0zRAPH-6620zRAPH-6708zRAPH-6709zRAPH-6E80zRAPH-6F14zRAPH-7121
zRAPH-751FzRAPH-7533zRAPH-7981zRAPH-7A7AzRAPH-7D42zRAPH-89E3zRAPH-8CA9zRAPH-8D70zRAPH-904AzRAPH-914DjLjOOL
iDOT OPERATORiEIGHT KiFALLING DIAGONAL SLASHjIVE POINT ONEjOUR DOT PUNCTUATIONnKjREEiHCjDRjI-RESjViID
iKATAKANA DErKOKOrSAjEYiLATIN CAPITAL LETTER AzTER BzTER CzTER DzTER EzTER FzTER GzTER HzTER IzTER JzTER K
zTER LzTER MzTER NzTER OzTER PzTER QzTER RzTER SzTER TzTER UzTER VzTER WzTER XzTER YzTER ZoSMALL LETTER D
jOGICAL ANDqORkSSLESSiMINUSjViNEWjGiOKjNE HUNDRED TWENTY PiPLUSjPViRISING DIAGONAL SLASHiSALTIREjD
jECOND SCREENkVEN POINT ONEjHVjIXTY PjMALL CIRCLEjOSjQUAREjSiTHREE DjIMESjWENTY-TWO POINT TWOkO KiUHD
jP WITH EXCLAMATION MARKiVODjSiWCeT BLACK RIGHTWARDS ARROWdIDbS2c3cAbTcADIUMdFF OF AESCULAPIUSjHERMES
dMPED ENVELOPEdNDING PERSONdR AND CRESCENTfEQUALSfOF DAVIDgPERATORfWITH LEFT HALF BLACKkRIGHT HALF BLACK
eT OF GUARDED AREAjHEADINGjPROTECTED AREAjSELECTED AREAkTRINGjTEXTdTIONeUE OF LIBERTYcEAM LOCOMOTIVE
fING BOWLdNOGRAPHIC FULL STOPdTHOSCOPEcICK FIGUREm LEANING LEFTvRIGHTnWITH ARMS RAISEDsDRESScOCK CHART
dPWATCHcRAIGHT RULERiNESSeWBERRYdESS OUTLINED WHITE STARdICTLY EQUIVALENT TOeNG TERMINATORcScUDIO MICROPHONE
dFFED FLATBREADdPAcXbUBdSCRIPT EIGHTlQUALS SIGNkFIVElOURkLEFT PARENTHESISkMINUSkNINEkONEkPLUS SIGN
kRIGHT PARENTHESISkSEVENlIXkTHREElWOkZEROeET ABOVE RIGHTWARDS ARROWnSUBSETpPERSEThOFj ABOVE ALMOST EQUAL TO
qEQUALS SIGNqNOT EQUAL TOqTILDE OPERATORkOR EQUAL TOv WITH DOT ABOVEkWITH NOT EQUAL TOhWITH DOT
mMULTIPLICATION SIGN BELOWmPLUS SIGN BELOWeTITUTEcCCEEDSi ABOVE ALMOST EQUAL TOpEQUALS SIGN
pNOT ALMOST EQUAL TOtEQUAL TOpSINGLE-LINE EQUALS SIGNzE NOT EQUAL TOjBUT NOT EQUIVALENT TOjOR EQUAL TO
pIVALENT TOjUNDER RELATIONcMMATION BOTTOMkTOPkWITH INTEGRALcNd BEHIND CLOUDeWITH FACEdDANESE AVAGRAHA
kCONSONANT SIGN PAMINGKALzPANYAKRAzPANYIKUzPASANGAN MAzPASANGAN WAkDIGIT EIGHTqFIVErOURqNINEqONEqSEVENrIX
qTHREErWOqZEROkLETTER AsErBAsHArCArDArEsUrFAsINAL KxMrGArHArIrJArKAsHArLAsEUrMArNAsGAsYArOrPArQArRAsEUrSAsYA
rTArUrVArWArXArYArZAkPUNCTUATION BINDU BA SATANGAzDU CAKRAzDU DA SATANGAzDU KA SATANGAzDU LEU SATANGA
zDU PANGLONGzDU PURNAMAzDU SURYAkSIGN PAMAAEHrNGLAYARtWISADsYECEKpVIRAMAkVOWEL SIGN PAMEPETxNAELAENGyEULEUNG
yGHULUyOLONGyYUKUdFLOWERdRISEh OVER MOUNTAINSdSET OVER BUILDINGScPERHEROfSCRIPT EIGHTnQUALS SIGNmFIVEnOUR
mLATIN SMALL LETTER IzETTER NnEFT PARENTHESISmMINUSmNINEmONEmPLUS SIGNmRIGHT PARENTHESISmSEVENnIXmTHREEnWO
mZEROgET ABOVE LEFTWARDS ARROWpSUBSETrPERSETjBESIDE AND JOINED BY DASH WITH SUBSETqSUBSETjOF
l ABOVE ALMOST EQUAL TOsEQUALS SIGNsNOT EQUAL TOsTILDE OPERATORmOR EQUAL TOx WITH DOT ABOVE
mWITH NOT EQUAL TOjPRECEDING SOLIDUSjWITH DOToMULTIPLICATION SIGN BELOWoPLUS SIGN BELOWfVILLAIN
cRFACE INTEGRALeERcSHIdPENSION RAILWAYbWANdSH AMPERSAND ORNAMENTcIMMERcUNG DASHbYLOTI NAGRI LETTER AuBHOvO
uCHOvOuDDHOwOvHOvOuEuGHOvOuHOuIuJHOvOuKHOvOuLOuMOuNOuOuPHOvOuROvROuSOuTHOvOvTHOwOuUnPOETRY MARK-1z2z3z4
nSIGN ALTERNATE HASANTAtNUSVARAsDVISVARAsHASANTAnVOWEL SIGN AyEyIyOOyUcMBOL FOR ACKNOWLEDGElBACKSPACEmELL
lCANCELnRRIAGE RETURNlDATA LINK ESCAPEmELETEr FORM TWOnVICE CONTROL FOURz ONEz THREEz TWOlEND OF MEDIUMsTEXT
tRANSMISSIONzSSION BLOCKnQUIRYmSCAPElFILE SEPARATORmORM FEEDlGROUP SEPARATORlHORIZONTAL TABULATIONlLINE FEED
lMARKS CHAPTERlNEGATIVE ACKNOWLEDGEnWLINEmULLlRECORD SEPARATORlSAMARITAN SOURCEmHIFT INrOUTmPACE
mTART OF HEADINGuTEXTmUBSTITUTEv FORM TWOmYNCHRONOUS IDLElTYPE A ELECTRONICSlUNIT SEPARATOR
lVERTICAL TABULATIONdMETRYcNdAGOGUEdCHRONOUS IDLEcRIAC ABBREVIATION MARKhBARREKHhCOLON SKEWED LEFTuRIGHT
jNTRACTIONhDOTTED ZLAMA ANGULARuHORIZONTALhEND OF PARAGRAPHiSASA ABOVEnBELOWhFEMININE DOT
hHARKLEAN ASTERISCUSqMETOBELUSqOBELUSiBASA ABOVEnBELOWm-ESASA DOTTEDiORIZONTAL COLONhLETTER ALAPHoBETH
oDALATHpOTLESS DALATH RISHoEoFINAL SEMKATHoGAMALt GARSHUNIoHEqTHoKAPHoLAMADHoMALAYALAM BHAyJAyLLAzLLAyNGAzNA
zNNAzYAyRAySSAyTTApIMoNUNoPEqRSIAN BHETHwDHALATHwGHAMALoQAPHoREVERSED PEpISHoSADHEpEMKATHpHINpOGDIAN FE
wKHAPHwZHAINpUPERSCRIPT ALAPHoTAWpETHs GARSHUNIoWAWoYUDHs HEoZAINhMUSIChOBLIQUE LINE ABOVEuBELOW
hPTHAHA ABOVEoBELOWoDOTTEDhQUSHSHAYAhRBASA ABOVEnBELOWiUKKAKHAiWAHAhSUBLINEAR COLONw SKEWED LEFTzEWED RIGHT
rFULL STOPjPRALINEAR COLONy SKEWED LEFTtFULL STOPhTHREE DOTS ABOVEsBELOWiWO VERTICAL DOTS ABOVEzBELOW
hZQAPHA ABOVEoBELOWoDOTTEDeNGE"

end LineScript.Text
