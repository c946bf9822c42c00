/-! The names of characters that begin with a letter from D to H. -/

namespace LineScript.Text

/-- The names that begin with the letters D to H, packed. -/
def namesDToH : String :=
  "aDAGGERg KNIFEhWITH LEFT GUARDmRIGHT GUARDcLET SYMBOLcNCERdGOcRK SHADEgUNGLASSEScSH SYMBOLfWITH LEFT UPTURN
eED LOW LINEhOVERLINEhTRIANGLE-HEADED RIGHTWARDS ARROWcTA LINK ESCAPEbC1c2c3c4cSbEAF PERSONcCIDUOUS TREE
eMAL EXPONENT SYMBOLiSEPARATOR KEY SYMBOLdREASE FONT SIZE SYMBOLcERcGREE CELSIUShFAHRENHEIThSIGNcLdETE
dIVERY TRUCKdTA EQUAL TOcNTISTRY SYMBOL LIGHT DOWN AND HORIZONTALzWN AND HORIZONTAL WITH CIRCLE
zWN AND HORIZONTAL WITH TRIANGLEzWN AND HORIZONTAL WITH WAVExUP AND HORIZONTALz AND HORIZONTAL WITH CIRCLE
z AND HORIZONTAL WITH TRIANGLEz AND HORIZONTAL WITH WAVExVERTICAL AND BOTTOM LEFTzRTICAL AND BOTTOM RIGHT
zRTICAL AND TOP LEFTzRTICAL AND TOP RIGHTzRTICAL AND WAVEzRTICAL WITH CIRCLEzRTICAL WITH TRIANGLE
cPARTMENT STOREcRELICT HOUSE BUILDINGcSCENDING NODEdERET CAPITAL LETTER AYxBEExCHEExDEExEFyLyMyNzGyRySzHyTH
yWxGAYxHxJEExKAYxLONG AzNG AHzNG EzNG IzNG OzNG OOxOIyWxPEExSHORT AzORT AHzORT EzORT IzORT OzORT OOxTEEyHEE
xVEExWUxYEExZEEyHEEiSMALL LETTER AYvBEEvCHEEvDEEvEFwLwMwNxGwRwSxHwTHwWvGAYvHvJEEvKAYvLONG Az AHz Ez Iz Oz OO
vOIwWvPEEvSHORT AzT AHzT EzT IzT OzT OOvTEEwHEEvVEEvWUvYEEvZEEwHEEfTg ISLANDdKTOP COMPUTERiWINDOW
cVANAGARI ABBREVIATION SIGNmCUTE ACCENTlCARETlDANDAmIGIT EIGHTrFIVEsOURrNINErONErSEVENsIXrTHREEsWOrZERO
mOUBLE DANDAlGAP FILLERmRAVE ACCENTlHEADSTROKElJAIN OMlLETTER AtAtItUtWtYsBAtBAtHAsCAuNDRA AzEzOtHAsDAtDAuDA
vHAuHAtHAsEsFAsGAtGAtHAuHAtLOTTAL STOPsHAtEAVY YAsItIsJAtHAtJAsKAtHAuHAsLAtLAuLAsMAuRWARI DDAsNAtGAtNAuNAtYA
sOtEtOEsPAtHAsQAsRAtHAtRAsSAtHAuORT AyEyOtSAsTAtHAtTAuHAsUtEtUuEsVAtOCALIC Lz LLz Rz RRsYAtYAsZAtHAlOM
lSIGN ANUSVARArVAGRAHAqCANDRABINDUzDU AVAGRAHAzDU THREEzDU TWOzDU VIRAMAqDOUBLE CANDRABINDU VIRAMA
qHIGH SPACING DOTqINVERTED CANDRABINDUqNUKTAqPUSHPIKAqSIDDHAMrPACING CANDRABINDUqVIRAMAsSARGA
mTRESS SIGN ANUDATTAxUDATTAlVOWEL SIGN AAxIxUxWxYwCANDRA EzDRA LONG EzDRA OwEwIxIwOxExOEwPRISHTHAMATRA E
wSHORT EzRT OwUxExUyEwVOCALIC LzALIC LLzALIC RzALIC RRdICE CONTROL FOURpONEpSTRINGpTHREEqWObIAERESIS
dMETER SIGNeOND OPERATORiSHAPE WITH A DOT INSIDEiTARGETiWITH BOTTOM HALF BLACKnLEFT HALF BLACK
nRIGHT HALF BLACKnTOP HALF BLACKcE FACE-1j2j3j4j5j6dSEL LOCOMOTIVEcFFERENCE BETWEENcGIT EIGHTl COMMA
mFULL STOPgFIVEk COMMAlFULL STOPhOURk COMMAlFULL STOPgNINEk COMMAlFULL STOPgONEj COMMAkFULL STOPgSEVEN
l COMMAmFULL STOPhIXj COMMAkFULL STOPgTHREEl COMMAmFULL STOPhWOj COMMAkFULL STOPgZEROk COMMAlFULL STOP
dRAM FOR EARTHqLY HEAVENuUMANlGREATER YANGuINlHEAVENLY EARTHmUMAN EARTHlLESSER YANGtINcMENSION ORIGIN
cNGBAT CIRCLED SANS-SERIF DIGIT EIGHTzF DIGIT FIVEzF DIGIT FOURzF DIGIT NINEzF DIGIT ONEzF DIGIT SEVEN
zF DIGIT SIXzF DIGIT THREEzF DIGIT TWOzF DIGIT ZEROzF NUMBER TENiNEGATIVE CIRCLED DIGIT EIGHTzDIGIT FIVE
zDIGIT FOURzDIGIT NINEzDIGIT ONEzDIGIT SEVENzDIGIT SIXzDIGIT THREEzDIGIT TWOzNUMBER TEN
zSANS-SERIF DIGIT EIGHTzSANS-SERIF DIGIT FIVEzSANS-SERIF DIGIT FOURzSANS-SERIF DIGIT NINE
zSANS-SERIF DIGIT ONEzSANS-SERIF DIGIT SEVENzSANS-SERIF DIGIT SIXzSANS-SERIF DIGIT THREE
zSANS-SERIF DIGIT TWOzSANS-SERIF DIGIT ZEROzSANS-SERIF NUMBER TENcRECT CURRENT SYMBOL FORM TWOhHIT
cSABLED CARePPOINTED BUT RELIEVED FACEnFACEdCONTINUOUS UNDERLINE SYMBOLdGUISED FACEcTTO MARK
cVES AKURU DIGIT EIGHTsFIVEtOURsNINEsONEsSEVENtIXsTHREEtWOsZEROnOUBLE DANDAmEND OF TEXT MARKmGAP FILLER
mINITIAL RAmLETTER AuAtBAuHAtCAuHAtDAuDAvHAuHAtEtGAuHAtHAtIuItJAtKAuHAtLAuLAtMAtNAuGAuNAuYAtOtPAuHAtRAtSAuHA
uSAtTAuHAuTAtUuUtVAtYAuYAtZAmMEDIAL RAtYAmPREFIXED NASAL SIGNmSIGN ANUSVARArCANDRABINDUrHALANTArNUKTAmVIRAMA
nOWEL SIGN AAyIxExIyIxOxUyUdIDESeNG MASKeSION SIGNkLASHjTIMESdORCE SYMBOLcYA LAMPcZZY FACEgSYMBOLbLE
bNA DOUBLE HELIXbO NOT LITTER SYMBOLcCUMENTi WITH PICTUREoTEXTs AND PICTUREcDOcES NOT CONTAIN AS MEMBER
uNORMAL SUBGROUPzL SUBGROUP OR EQUALjDIVIDEp WITH REVERSED NEGATION SLASHjFORCEjPRECEDEq OR EQUALlOVE
jSUCCEEDq OR EQUALcGd FACEdRA ABBREVIATION SIGNgLETTER AoAoIoUnBAoHAnCAoHAnDAoDApHAoHAnEnGAoHAnHAnIoInJAoHA
nKAoHAnLAnMAnNAoGAoNAoYAnOnPAoHAnRAoRAnSAoHAoSAnTAoHAoTApHAnUoUnVAnYAgSIGN ANUSVARAlNUKTAlVIRAMAnSARGA
gVOWEL SIGN AAsIsUrErIsIrOrUsUrVOCALIC RzRRcLLAR SIGNdPHINcMINO TILE HORIZONTAL BACKw-00-00z-01z-02z-03z-04
z-05z-06y1-00z-01z-02z-03z-04z-05z-06y2-00z-01z-02z-03z-04z-05z-06y3-00z-01z-02z-03z-04z-05z-06y4-00z-01z-02
z-03z-04z-05z-06y5-00z-01z-02z-03z-04z-05z-06y6-00z-01z-02z-03z-04z-05z-06mVERTICAL BACKu-00-00z1z2z3z4z5z6
w1-00z1z2z3z4z5z6w2-00z1z2z3z4z5z6w3-00z1z2z3z4z5z6w4-00z1z2z3z4z5z6w5-00z1z2z3z4z5z6w6-00z1z2z3z4z5z6
cNG SIGNcORcT ABOVEeMINUSeOPERATORePLUSdTED CIRCLEiROSShFENCEhLINE FACEhOBELOShRIGHT-POINTING ANGLEhSOLIDUS
iQUAREhTRANSPOSITION MARKERcUBLE ACUTE ACCENThCIRCLED DIGIT EIGHTvFIVEwOURvNINEvONEvSEVENwIXvTHREEwWO
pNUMBER TENiOLON EQUALiURLY LOOPhDAGGERiOWN TACKhEXCLAMATION MARKhHIGH-REVERSED-9 QUOTATION MARKiYPHEN
hINTEGRALlRSECTIONhLEFT ARC GREATER-THAN BRACKETiOGICAL ANDpORjW LINEk-9 QUOTATION MARK
lREVERSED-9 QUOTATION MARKhNESTED GREATER-THANoLESS-THANx WITH UNDERBARhOBLIQUE HYPHENhPLUSiRECEDESjIME
m QUOTATION MARKhQUESTION MARKhRIGHT ARC LESS-THAN BRACKEThSOLIDUS OPERATORiQUARE INTERSECTIONoUNION
iTACKED COMMAjROKE NOT SIGNiUBSETjCCEEDSjPERSETjSPENSION MARKhUNIONiP TACKhVERTICAL BAR
t DOUBLE LEFT TURNSTILEzE RIGHT TURNSTILEuLEFT TURNSTILEqLINEhWAVY OVERLINEg-ENDED MULTIMAP
hLINE EQUAL TO OR GREATER-THANyLESS-THANmSLANTED EQUAL TO OR GREATER-THANz TO OR LESS-THAN
uGREATER-THAN OR EQUAL TOuLESS-THAN OR EQUAL TOhSTRUCK CAPITAL CwGAMMAwHwNwPxIwQwRwZoITALIC CAPITAL D
vSMALL DzL EzL IzL JoN-ARY SUMMATIONoSMALL GAMMAuPIgD FEMALE SIGNiMALE SIGNiSYMBOLdGHNUTcVE OF PEACE
cWN ARROWHEADfFISH TAILfRIGHT DIAGONAL ELLIPSISfTACKj WITH CIRCLE BELOWe-POINTING RED TRIANGLE
oSMALL RED TRIANGLEoTRIANGLE WITH LEFT HALF BLACKzTH RIGHT HALF BLACKeWARD FACING HOOKu WITH DOT
qNOTCHED HOOKzOOK WITH DOTiS ANCORAlRROWp AND RIGHT ONE EIGHTH BLOCKqFROM BARqLEFTWARDS OF UPWARDS ARROW
qTO BARqWITH CORNER LEFTWARDSvDOUBLE STROKEvEQUILATERAL ARROWHEADvHORIZONTAL STROKEvLARGE TRIANGLE ARROWHEAD
vMEDIUM TRIANGLE ARROWHEADvNOTCHED TAILvSMALL EQUILATERAL ARROWHEADzL TRIANGLE ARROWHEADvTIP LEFTWARDS
zRIGHTWARDSkBLACK ARROWqCIRCLED WHITE ARROWkCOMPRESSED ARROWkDASHED ARROWlOUBLE ARROWkFINGER-POST ARROW
kHARPOON WITH BARB LEFT BESIDE DOWNWARDS HARPOON WITH BARB RIGHT
zRB LEFT BESIDE UPWARDS HARPOON WITH BARB RIGHTzRB LEFT FROM BARzRB LEFT TO BARzRB LEFTWARDS
zRB RIGHT FROM BARzRB RIGHT TO BARzRB RIGHTWARDSlEAVY ARROWqCOMPRESSED ARROWkPAIRED ARROWSkQUADRUPLE ARROW
kROCKETkSANS-SERIF ARROWlQUARED ARROWkTRIANGLE ARROWHEADs-HEADED ARROW
z ARROW LEFTWARDS OF UPWARDS TRIANGLE-HEADED ARROWz ARROW TO BARz ARROW WITH BOLD SHAFT
z ARROW WITH DOUBLE HORIZONTAL STROKEz ARROW WITH HEAVY SHAFTz ARROW WITH LONG TIP LEFTWARDS
z ARROW WITH LONG TIP RIGHTWARDSz ARROW WITH MEDIUM SHAFTz ARROW WITH NARROW SHAFT
z ARROW WITH VERY HEAVY SHAFTz DASHED ARROWz PAIRED ARROWSz ZIGZAG ARROWnPLE ARROWlWO HEADED ARROW
n-HEADED ARROW WITH TRIANGLE ARROWHEADSkWHITE ARROWv WITHIN TRIANGLE ARROWHEADkZIGZAG ARROWbRACHMA SIGN
dFTING POINT RIGHTWARDS ARROWdGONg FACEcESScIVE SLOW SIGNcOMEDARY CAMELdOLING FACEdP OF BLOODeLET
cUM WITH DRUMSTICKSbUCKcMPLINGcPLOYAN AFFIX ATTACHED E HOOKyI HOOKyLEFT-TO-RIGHT SECANTySECANTyTAILzANGENT
zANGENT HOOKpHIGH ACUTEuCIRCLEuDOTuGRAVEuLINEvONG GRAVEuTIGHT ACUTEuVERTICALzCAL SECANTuWAVE
pLEFT HORIZONTAL SECANTqOW ACUTEuRROWtCIRCLEtDOTtGRAVEtLINEuONG GRAVEtTIGHT ACUTEtVERTICALzAL SECANTtWAVE
pMID HORIZONTAL SECANTtVERTICAL SECANTpRIGHT HORIZONTAL SECANTjDOUBLE MARKjLETTER ArOUqBqDr SrHqErErUqFr NqG
r R SqHrLqIrEqJr Mt SsNt SsSt WITH DOTsWITH DOTzTS INSIDE AND ABOVEqKr MsR SrKqLrHrONG IvUqMr Nt SsS
sWITH DOTqNr Mt SsSsWITH DOTrASAL AwIwOwUqOrArOHrUrWqPr NrERNIN AMyNqRr SrHrOMANIAN IzUqSr Jt SsKt RsMsNsP
t RsSsTt RsWITH DOTzT BELOWrHORT IrLOAN ANwDHwEExHxNwJwONxWwUqTr R SsSrHqUr NrHrIqVrOCALIC MqWr RrArEIrHrIrO
sWqXrWqYEjPUNCTUATION CHINOOK FULL STOPjSIGN O WITH CROSSjTHICK LETTER SELECTORbVDaE-MAIL SYMBOLbAGLEcR
d OF MAIZEhRICEeWITH HEARING AIDdTHf GLOBE AMERICASnSIA-AUSTRALIAmEUROPE-AFRICAhROUNDcST SYRIAC CROSS
bDITORIAL CORONISbGGcYPTIAN HIEROGLYPH A001x2x3x4x5yAx6yAyBx7x8x9w10x1x2x3x4yAx5x6x7yAx8x9w20x1x2x3x4x5x6x7
x8x9w30x1x2yAx3x4x5x6x7x8x9w40yAx1x2yAx3yAx4x5yAx6x7x8x9w50x1x2x3x4x5x6x7x8x9w60x1x2x3x4x5x6x7x8x9w70vA001y2
y3y4y5y6y7zAzBy8y9x10y1y2y3y4y5y6y7y8y9x20y1y2y3y4y5y6y7y8y9x30y1y2uB001x2x3x4x5yAx6x7x8x9vEGIN SEGMENTuC001
x2yAyByCx3x4x5x6x7x8x9w10yAx1x2x3x4x5x6x7x8x9w20x1x2x3x4uD001x2x3x4x5x6x7x8yAx9w10x1x2x3x4x5x6x7x8x9w20x1x2
x3x4x5x6x7yAx8x9w30x1yAx2x3x4yAx5x6x7x8x9w40x1x2x3x4x5x6yAx7x8yAx9w50yAyByCyDyEyFyGyHyIx1x2yAx3x4yAx5x6x7x8
x9w60x1x2x3x4x5x6x7yAyByCyDyEyFyGyHuE001x2x3x4x5x6x7x8yAx9yAw10x1x2x3x4x5x6yAx7yAx8x9w20yAx1x2x3x4x5x6x7x8yA
x9w30x1x2x3x4yAx6x7x8vND SEGMENTuF001yAx2x3x4x5x6x7x8x9w10x1x2x3yAx4x5x6x7x8x9w20x1yAx2x3x4x5x6x7x8x9w30x1yA
x2x3x4x5x6x7yAx8yAx9w40x1x2x3x4x5yAx6yAx7yAx8x9w50x1yAyByCx2x3uG001x2x3x4x5x6yAx7yAyBx8x9w10x1yAx2x3x4x5x6x7
x8x9w20yAx1x2x3x4x5x6yAx7x8x9w30x1x2x3x4x5x6yAx7yAx8x9w40x1x2x3yAx4x5yAx6x7x8x9w50x1x2x3x4uH001x2x3x4x5x6yA
x7x8vORIZONTAL JOINERuI001x2x3x4x5yAx6x7x8x9yAw10yAx1yAx2x3x4x5vNSERT AT BOTTOM ENDzT AT BOTTOM START
zT AT TOP ENDzT AT TOP STARTuK001x2x3x4x5x6x7x8uL001x2yAx3x4x5x6yAx7x8uM001yAyBx2x3yAx4x5x6x7x8x9w10yAx1x2yA
yByCyDyEyFyGyHx3x4x5yAx6yAx7yAx8x9w20x1x2yAx3x4yAx5x6x7x8yAx9w30x1yAx2x3yAyBx4x5x6x7x8x9w40yAx1x2x3x4uN001x2
x3x4x5x6x7x8x9w10x1x2x3x4x5x6x7x8yAyBx9w20x1x2x3x4x5yAx6x7x8x9w30x1x2x3yAx4yAx5yAx6x7yAx8x9w40x1x2vL001y2y3
y4y5zAy6y7y8y9x10y1y2y3y4y5y6y7zAy8y9x20vU001y2y3y4y5y6y7y8y9x10zAy1zAy2y3y4y5y6y7y8zAy9x20y1y2zAuO001yAx2x3
x4x5yAx6yAyByCyDyEyFx7x8x9w10yAyByCx1x2x3x4x5x6x7x8x9yAw20yAx1x2x3x4yAx5yAx6x7x8x9yAw30yAx1x2x3yAx4x5x6yAyB
yCyDx7x8x9w40x1x2x3x4x5x6x7x8x9w50yAyBx1vVERLAY MIDDLEuP001yAx2x3yAx4x5x6x7x8x9w10x1uQ001x2x3x4x5x6x7uR001x2
yAx3yAyBx4x5x6x7x8x9w10yAx1x2x3x4x5x6yAx7x8x9w20x1x2x3x4x5x6x7x8x9uS001x2yAx3x4x5x6yAx7x8x9w10x1x2x3x4yAyBx5
x6x7yAx8x9w20x1x2x3x4x5x6yAyBx7x8x9w30x1x2x3x4x5yAx6x7x8x9w40x1x2x3x4x5x6uT001x2x3yAx4x5x6x7yAx8yAx9yAw10x1
yAx2x3x4x5x6yAx7x8x9w20x1x2x3x4x5x6x7x8x9w30x1x2yAx3yAx4x5x6uU001x2x3x4x5x6yAyBx7x8x9w10x1x2x3x4x5x6x7x8x9
w20x1x2x3yAx4x5x6x7x8x9yAw30x1x2yAx3x4x5x6x7x8x9w40x1x2uV001yAyByCyDyEyFyGyHyIx2yAx3x4x5x6x7yAyBx8x9w10x1yA
yByCx2yAyBx3x4x5x6x7x8x9w20yAyByCyDyEyFyGyHyIyJyKyLx1x2x3yAx4x5x6x7x8yAx9yAw30yAx1yAx2x3yAx4x5x6x7yAx8x9w40
yAvERTICAL JOINERuW001x2x3yAx4x5x6x7x8x9yAw10yAx1x2x3x4yAx5x6x7yAx8yAx9w20x1x2x3x4yAx5uX001x2x3x4yAyBx5x6yA
x7x8yAuY001yAx2x3x4x5x6x7x8uZ001x2yAyByCyDx3yAyBx4yAx5yAx6x7x8x9w10x1x2x3x4x5yAyByCyDyEyFyGyHyIx6yAyByCyDyE
yFyGyHbIGHT PETALLED OUTLINED BLACK FLORETTEhOINTED BLACK STARoPINWHEEL STARoRECTILINEAR BLACK STAR
gSPOKED ASTERISKgTEARDROP-SPOKED PROPELLER ASTERISKfH NOTEbJECT SYMBOLbLBASAN LETTER ApBEpCEqHEpDEqHEpEqIpFE
pGEqHAMMArEqJEpHEpIpJEpKEqHEpLEqLEpMEpNAqDEqEqJEpOpPEpQEpREqREpSEqHEpTEqHEpUpVEpXEpYpZEqHEcECTRIC ARROW
jLIGHT BULBjPLUGjTORCHiAL INTERSECTIONdMENT OFk OPENING DOWNWARDStUPWARDSlWITH DOT ABOVE
qLONG HORIZONTAL STROKEqOVERBARqTWO HORIZONTAL STROKESqUNDERBARqVERTICAL BAR AT END OF HORIZONTAL STROKE
dPHANTdVATORcFcYMAIC LETTER ALEPHqYINpBETHpDALETHpGIMELpHErTHpKAPHpLAMEDHpMEMpNUNpPEpQOPHpRESHpSADHErMEKH
qHINpTAWqETHpWAWpYODHpZAYINjIGATURE ZAYIN-YODHbM DASHdQUADdSPACEcOJI COMPONENT BALDqCURLY HAIRqRED HAIR
qWHITE HAIRgMODIFIER FITZPATRICK TYPE-1-2zK TYPE-3zK TYPE-4zK TYPE-5zK TYPE-6cPHASIS SYMBOLdTY DOCUMENTgNEST
hOTEk PADnGEgPAGEkSgSETj WITH LEFT ARROW ABOVEpOVERBARpRIGHT ARROW ABOVEpSMALL CIRCLE ABOVEbN DASHdQUAD
dSPACEcD OF GUARDED AREAhLINEhMEDIUMhPROOFkTECTED AREAhSELECTED AREAhTEXTiRANSMISSIONt BLOCK
eWITH LEFTWARDS ARROW ABOVEcQdUIRYcTER SYMBOLcVELOPEi WITH DOWNWARDS ARROW ABOVEoLIGHTNINGbOLcMcTbPA
bQUAL AND PARALLEL TOgTO BY DEFINITIONjOR GREATER-THANmLESS-THANmPRECEDESmSUCCEEDSfS COLONhSIGN
l ABOVE LEFTWARDS ARROWsPLUS SIGNsRIGHTWARDS ARROWsTILDE OPERATORnND SLANTED PARALLEL
zARALLEL WITH TILDE ABOVEmWITH BUMPY ABOVErDOT BELOWrINFINITY BELOWrTWO DOTS ABOVE AND TWO DOTS BELOW
hWITH ASTERISKdIANGULAR TOeVALENT TOlWITH FOUR DOTS ABOVEbRASE TO THE LEFTnRIGHTcIS FORM ONEkTWO
cROR-BARRED BLACK CIRCLEtDIAMONDtSQUAREnWHITE CIRCLEtDIAMONDtSQUAREbSAcCdAPEcTIMATED SYMBOLiSbTB
cHIOPIC COLONlMBINING GEMINATION AND VOWEL LENGTH MARKzTION MARKtVOWEL LENGTH MARKmMAjDIGIT EIGHTpFIVEqOUR
pNINEpONEpSEVENqIXpTHREEqWOjFULL STOPjNUMBER EIGHTYqFIFTYrORTYqHUNDREDqNINETYqSEVENTYrIXTYqTENt THOUSAND
rHIRTYrWENTYjPARAGRAPH SEPARATORkREFACE COLONjQUESTION MARKjSECTION MARKlMICOLONkYLLABLE BAuAtBAvAuEvEuIuOuU
tEuEtItOuAtUtWAuEvEuIsCAuAtCAvAuEvEuHAwAvEwEvHAxAwExEwIwOwUvIvOvUuIuOuUtEuEtHAvAuEvEuIuOvAuUuWAtItOuAtUtWA
sDAuAtDAvAuEvEuHAAvEwEvIvOvUuIuOvAuUuWAtEuEtItOuAtUtWAtZAAuEvEuIuOuUsFAuAtEuEtItOtUtWAuEvEuItYAsGAuAtEuEtGA
vAuEvEuIuOuUuWAwAvEwEvItItLOTTAL Az AAz Ez EEz Iz Oz OAz Uz WAtOuAtUuRAGE BWEEzBWIzFWEEzFWIzGWEzGWEEzGWI
zHHWAzKWEzKWEEzKWIzMWEEzMWIzPWEEzPWIzQWEzQWEEzQWItWAvAuEvEuItYAvAuEvEuIuOuUsHAuAtEuEtHAvAuEvEuIuOuUuWAvEwEvI
uYAwAvEwEvIvOvUtItOuAtUsJAuAtEuEtItOuAtUtWAsKAuAtEuEtItOuAtUtWAvAuEvEuItXAvAuEvEuIuOuUuWAwAvEwEvItYAvAuEvEuI
uOuUsLAuAtEuEtItOuAtUtWAsMAuAtEuEtItOuAtUtWAuEvEuItYAsNAuAtEuEtItOuAtUtWAtYAvAuEvEuIuOvAuUuWAsPAuAtEuEtHAvA
vRYNGEAL AzEAL AAzEAL EzEAL EEzEAL IzEAL OzEAL UuEvEuIuOvAuUuWAtItOuAtUtWAuEvEuIsQAuAtEuEtHAvAuEvEuIuOuUuWA
wAvEwEvItItOuAtUtWAvAuEvEuItYAvAuEvEuIuOuUsRAuAtEuEtItOuAtUtWAtYAsSAuAtEuBATBEIT BWAzIT FWAzIT MWAzIT PWAuE
tHAvAuEvEuIuOvAuUuWAtItOuAtSAvAuEvEuIuOuUtUtWAtZAvAuEvEuIuOuUuWAsTAuAtEuEtHAvAuEvEuIuOvAuUuWAtItOuAtSAvAuEvE
uIuOuUuWAtTHAAvEwEvIvOvUtUtWAtZAvAuEvEuIuOvAuUsVAuAtEuEtItOtUtWAsWAuAtEuEtItOuAtUsXAuAtEuEtItOuAtUtWAvAuEvE
uItYAvAuEvEuIuOuUsYAuAtEuEtItOuAtUsZAuAtEuEtHAvAuEvEuIuOuUuWAtItOuAtUtWAtZAvAuEvEuIuOuUjTONAL MARK CHIRET
uDERETz-HIDETvIFATuHIDETuKENATvURTuRIKRIKuSHORT RIKRIKuYIZETjWORDSPACEcXbULER CONSTANTcRO SIGN
e-CURRENCY SIGNePEAN CASTLEjPOST OFFICEbVERGREEN TREEbXCESSdLAMATION MARKmQUESTION MARKcPRESSIONLESS FACE
cTENDED ARABIC-INDIC DIGIT EIGHTzIT FIVEzIT FOURzIT NINEzIT ONEzIT SEVENzIT SIXzIT THREEzIT TWOzIT ZERO
dRATERRESTRIAL ALIENeEMELY HEAVY FIVE SPOKED ASTERISKqGREEK CROSSqSALTIRErIX SPOKED ASTERISKqWHITE CIRCLE
wSQUAREbYEdGLASSESdSaFACE HOLDING BACK TEARSfMASSAGEfPALMfSAVOURING DELICIOUS FOODgCREAMING IN FEAR
fTHROWING A KISSfWITH COLD SWEATmWBOY HATkDIAGONAL MOUTHkFINGER COVERING CLOSED LIPSkHEAD-BANDAGE
kLOOK OF TRIUMPHkMEDICAL MASKlONOCLEkNO GOOD GESTUREkOK GESTURElNE EYEBROW RAISED
lPEN EYES AND HAND OVER MOUTHpMOUTHu AND COLD SWEATvVOMITINGkPARTY HORN AND PARTY HATlEEKING EYE
lLEADING EYESkROLLING EYESkSTUCK-OUT TONGUEzE AND TIGHTLY-CLOSED EYESzE AND WINKING EYEkTEARS OF JOY
lHERMOMETERkUNEVEN EYES AND WAVY MOUTHjOUT MOUTHdSIMILE SIGNdTORYcIRYcLAFELdLEN LEAF
eING DIAGONAL CROSSING NORTH EAST ARROWz RISING DIAGONALrIN WHITE CIRCLE IN BLACK SQUAREcMILYcRSI SYMBOL
cTHER CHRISTMAScX ICONeMACHINEbEARFUL FACEdTHERcMALE SIGNdININE ORDINAL INDICATORcNCERcRRIS WHEELeYbF
bIELD HOCKEY STICK AND BALLcGURE DASHhSPACEcLE CABINETfFOLDERfSEPARATORdM FRAMESfPROJECTOR
cNITE PART INTEGRALcREe ENGINEgXTINGUISHEReCRACKEReWORK SPARKLERiSdST PLACE MEDALgQUARTER MOONs SYMBOL
tWITH FACEgSTRONG ISOLATEcSHe CAKE WITH SWIRL DESIGNeEYEeING POLE AND FISHdTED HAND SIGNcVE DOT MARK
jPUNCTUATIONbLAG IN HOLEdMINGOdT SHOEeBREADeNESScEUR-DE-LISdXED BICEPScOPPY DISKdRAL HEARTdWER
g PLAYING CARDSiUNCTUATION MARKcUSHED FACEcYdING DISChENVELOPEhSAUCERbOGdGYcLDERcNDUEcOTePRINTScR ALLdCES
dK AND KNIFEo WITH PLATEeED PARAGRAPHOSeINGdM FEEDdTUNE COOKIEcUNTAINdR BALLOON-SPOKED ASTERISK
fCLUB-SPOKED ASTERISKgORNER ARROWS CIRCLING ANTICLOCKWISEfDOT MARKjPUNCTUATIONfLEAF CLOVER
fPOINTED BLACK STARfTEARDROP-SPOKED ASTERISKe-PER-EM SPACEeTH ROOTcX FACEbRACTION NUMERATOR ONEjSLASH
dME WITH AN XlPICTURElTILEScEEZING FACEdNCH FRANC SIGNjIEScIED SHRIMPcOG FACEdNT-FACING BABY CHICK
gTILTED SHADOWED WHITE RIGHTWARDS ARROWdWNfING FACE WITH OPEN MOUTHbScIbUEL PUMPcLL BLOCKfMOON SYMBOL
kWITH FACEfOUTER JOINfSTOPeWIDTH AMPERSANDlPOSTROPHElSTERISKkBROKEN BARkCENT SIGNlIRCUMFLEX ACCENTlOLONmMMA
oERCIAL ATkDIGIT EIGHTqFIVErOURqNINEqONEqSEVENrIXqTHREErWOqZEROlOLLAR SIGNkEQUALS SIGNlXCLAMATION MARK
kFULL STOPkGRAVE ACCENTmEATER-THAN SIGNkHYPHEN-MINUSkLATIN CAPITAL LETTER AzETTER BzETTER CzETTER DzETTER E
zETTER FzETTER GzETTER HzETTER IzETTER JzETTER KzETTER LzETTER MzETTER NzETTER OzETTER PzETTER QzETTER R
zETTER SzETTER TzETTER UzETTER VzETTER WzETTER XzETTER YzETTER ZqSMALL LETTER AzTER BzTER CzTER DzTER E
zTER FzTER GzTER HzTER IzTER JzTER KzTER LzTER MzTER NzTER OzTER PzTER QzTER RzTER SzTER TzTER UzTER VzTER W
zTER XzTER YzTER ZlEFT CURLY BRACKETpPARENTHESISpSQUARE BRACKETpWHITE PARENTHESISmSS-THAN SIGNlOW LINE
kMACRONkNOT SIGNlUMBER SIGNkPERCENT SIGNlLUS SIGNlOUND SIGNkQUESTION MARKmOTATION MARKkREVERSE SOLIDUS
lIGHT CURLY BRACKETqPARENTHESISqSQUARE BRACKETqWHITE PARENTHESISkSEMICOLONlOLIDUSkTILDEkVERTICAL LINE
kWON SIGNkYEN SIGNcNCTION APPLICATIONdERAL URNcSEbVS1d2d3d4aGAME DIEcRLICbEARe WITH HANDLESjOUT HUBcM STONE
dINIcNIEcOMETRIC PROPORTIONjALLY EQUAL TOrIVALENT TOdRGIAN CAPITAL LETTER AENzNyBANyCANzHARzHINzILyDONyEN
yGANzHANyHAEzARzEzIEzOEyINyJHANzILyKANzHARyLASyMANyNARyONyPARzHARyQARyRAEySANzHINyTANzARyUNyVINyWEyXANyYN
yZENzHARjLETTER AENrINrNqBANqCANrHARsINrILqDONqELIFIrNqFIqGANrHANqHAEsRtD SIGNrErIErOEqINqJHANrILqKANrHAR
qLABIAL SIGNsSqMANqNARqONqPARrHARqQARqRAEqSANrHINqTANsRrURNED GANqUNqVINqWEqXANqYNqZENrHAR
jMTAVRULI CAPITAL LETTER AENz LETTER AINz LETTER ANz LETTER BANz LETTER CANz LETTER CHARz LETTER CHIN
z LETTER CILz LETTER DONz LETTER ELIFIz LETTER ENz LETTER FIz LETTER GANz LETTER GHANz LETTER HAE
z LETTER HARz LETTER HARD SIGNz LETTER HEz LETTER HIEz LETTER HOEz LETTER INz LETTER JHANz LETTER JIL
z LETTER KANz LETTER KHARz LETTER LABIAL SIGNz LETTER LASz LETTER MANz LETTER NARz LETTER ONz LETTER PAR
z LETTER PHARz LETTER QARz LETTER RAEz LETTER SANz LETTER SHINz LETTER TANz LETTER TARz LETTER TURNED GAN
z LETTER UNz LETTER VINz LETTER WEz LETTER XANz LETTER YNz LETTER ZENz LETTER ZHARjPARAGRAPH SEPARATOR
jSMALL LETTER AENxNwBANwCANxHARyINxILwDONwENwGANxHANwHAEyRxExIExOEwINwJHANxILwKANxHARwLASwMANwNARwONwPARxHAR
wQARwRAEwSANxHINwTANyRwUNwVINwWEwXANwYNwZENxHARcRMAN PENNY SIGNcTA MARKbHOSTbIMEL SYMBOLcRAFFE FACEdL
eS SYMBOLbLAGOLITIC CAPITAL LETTER AZUz BIG YUSz BUKYz CAUDATE CHRIVIz CHRIVIz DJERVIz DOBROz DZELOz FITA
z FRITUz GLAGOLIz HERUz Iz INITIAL IZHEz IOTATED BIG YUSz IOTATED SMALL YUSz IZHEz IZHITSAz KAKO
z LATINATE MYSLITEz LJUDIJEz MYSLITEz NASHIz ONUz OTUz PEz POKOJIz RITSIz SHAz SHTAz SHTAPICz SLOVO
z SMALL YUSz SMALL YUS WITH TAILz SPIDERY HAz TROKUTASTI Az TSIz TVRIDOz UKUz VEDEz YATIz YERIz YERUz YESTU
z YOz YUz ZEMLJAz ZHIVETElSMALL LETTER AZUyBIG YUSzUKYyCAUDATE CHRIVIzHRIVIyDJERVIzOBROzZELOyFITAzRITU
yGLAGOLIyHERUyIzNITIAL IZHEzOTATED BIG YUSzOTATED SMALL YUSzZHEzZHITSAyKAKOyLATINATE MYSLITEzJUDIJEyMYSLITE
yNASHIyONUzTUyPEzOKOJIyRITSIySHAzHTAzHTAPICzLOVOzMALL YUSzMALL YUS WITH TAILzPIDERY HAyTROKUTASTI AzSIzVRIDO
yUKUyVEDEyYATIzERIzERUzESTUzOzUyZEMLJAzHIVETEdSS OF MILKcEICH STARKcOBE WITH MERIDIANSdVESdWING STARbOAL NET
dTcGGLEScLFERcRILLAcTHIC LETTER AHSApIHVUSoBAIRKANoDAGSoEISoFAIHUoGIBAoHAGLpWAIRoIGGWSpUJAoJERoKUSMAoLAGUS
oMANNAoNAUTHSpINE HUNDREDsTYoOTHALoPAIRTHRAoQAIRTHRAoRAIDAoSAUILoTEIWSpHIUTHoURUSoWINJAbRADUATION CAP
dNTHA AU LENGTH MARKiLETTER AqAqIqUpBAqHApCAqHApDAqDArHAqHApEEpGAqHApHApIqIpJAqHApKAqHApLAqLApMApNAqGAqNAqYA
pOOpPAqHApRApSAqHAqSApTAqHAqTArHApUqUpVAqEDIC ANUSVARAvDOUBLE ANUSVARAqOCALIC LyLxRyRpYAiOMiSIGN ANUSVARA
oVAGRAHAnCANDRABINDUoOMBINING ANUSVARA ABOVEnNUKTAnPLUTAnVIRAMApSARGAiVOWEL SIGN AAuIuUtEEtIuItOOtUuU
tVOCALIC LzC LLzC RzC RRdPESdVE ACCENTcEATER-THAN ABOVE DOUBLE-LINE EQUAL ABOVE LESS-THAN
tLESS-THAN ABOVE DOUBLE-LINE EQUALtRIGHTWARDS ARROWtSIMILAR ABOVE LESS-THANzR OR EQUAL
uLANTED EQUAL ABOVE LESS-THAN ABOVE SLANTED EQUALoND NOT APPROXIMATErSINGLE-LINE NOT EQUAL TO
nBESIDE LESS-THANoUT NOT EQUAL TOyIVALENT TOnCLOSED BY CURVEzRVE ABOVE SLANTED EQUALnEQUAL TO OR LESS-THAN
nOR APPROXIMATEqEQUAL TOtIVALENT TOqLESS-THANqSLANTED EQUAL TOzQUAL TO WITH DOT ABOVE
zQUAL TO WITH DOT ABOVE LEFTzQUAL TO WITH DOT INSIDEoVER EQUAL TOrLAPPING LESS-THANnSIGNnWITH CIRCLE INSIDE
sDOTsQUESTION MARK ABOVEdEK ACROPHONIC ATTIC FIFTYzFTY STATERSzFTY TALENTSzFTY THOUSANDzFTY THOUSAND STATERS
zVEzVE HUNDREDzVE HUNDRED STATERSzVE HUNDRED TALENTSzVE STATERSzVE TALENTSzVE THOUSANDzVE THOUSAND TALENTS
xONE DRACHMAzE HALFzE HUNDRED STATERSzE HUNDRED TALENTSzE QUARTERzE THOUSAND STATERSzE THOUSAND TALENTS
xTEN MNASzN STATERSzN TALENTSzN THOUSAND STATERSrCARYSTIAN FIVE HUNDREDsYRENAIC TWO DRACHMAS
rDELPHIC FIVE MNASrEPIDAUREAN FIVE HUNDREDzAN TWOzAN TWO DRACHMASrHERAEUM ONE PLETHRONuMIONIAN FIFTYzAN ONE
zAN TENrMESSENIAN TENrNAXIAN FIVE HUNDREDrSTRATIAN FIFTY MNASrTHESPIAN FIFTYz FIVE HUNDREDz FIVE THOUSAND
z ONEz ONE HUNDREDz ONE THOUSANDz TENz THIRTYz THREE HUNDREDz TWOsROEZENIAN FIFTYzAN FIFTY ALTERNATE FORM
zAN FIVEzAN FIVE HUNDREDzAN TENzAN TEN ALTERNATE FORMhNO TELEIAhROURA SIGNiTABE SIGNgBETA SYMBOL
gCAPITAL DOTTED LUNATE SIGMA SYMBOLoKAI SYMBOLoLETTER ALPHAzA WITH DASIAzA WITH DASIA AND OXIA
zA WITH DASIA AND OXIA AND PROSGEGRAMMENIzA WITH DASIA AND PERISPOMENI
zA WITH DASIA AND PERISPOMENI AND PROSGEGRAMMENIzA WITH DASIA AND PROSGEGRAMMENIzA WITH DASIA AND VARIA
zA WITH DASIA AND VARIA AND PROSGEGRAMMENIzA WITH MACRONzA WITH OXIAzA WITH PROSGEGRAMMENIzA WITH PSILI
zA WITH PSILI AND OXIAzA WITH PSILI AND OXIA AND PROSGEGRAMMENIzA WITH PSILI AND PERISPOMENI
zA WITH PSILI AND PERISPOMENI AND PROSGEGRAMMENIzA WITH PSILI AND PROSGEGRAMMENIzA WITH PSILI AND VARIA
zA WITH PSILI AND VARIA AND PROSGEGRAMMENIzA WITH TONOSzA WITH VARIAzA WITH VRACHYwRCHAIC SAMPIvBETAvCHI
vDELTAvEPSILONzLON WITH DASIAzLON WITH DASIA AND OXIAzLON WITH DASIA AND VARIAzLON WITH OXIAzLON WITH PSILI
zLON WITH PSILI AND OXIAzLON WITH PSILI AND VARIAzLON WITH TONOSzLON WITH VARIAwTAy WITH DASIA
zWITH DASIA AND OXIAzWITH DASIA AND OXIA AND PROSGEGRAMMENIzWITH DASIA AND PERISPOMENI
zWITH DASIA AND PERISPOMENI AND PROSGEGRAMMENIzWITH DASIA AND PROSGEGRAMMENIzWITH DASIA AND VARIA
zWITH DASIA AND VARIA AND PROSGEGRAMMENIzWITH OXIAzWITH PROSGEGRAMMENIzWITH PSILIzWITH PSILI AND OXIA
zWITH PSILI AND OXIA AND PROSGEGRAMMENIzWITH PSILI AND PERISPOMENI
zWITH PSILI AND PERISPOMENI AND PROSGEGRAMMENIzWITH PSILI AND PROSGEGRAMMENIzWITH PSILI AND VARIA
zWITH PSILI AND VARIA AND PROSGEGRAMMENIzWITH TONOSzWITH VARIAvGAMMAvHETAvIOTAz WITH DASIA
z WITH DASIA AND OXIAz WITH DASIA AND PERISPOMENIz WITH DASIA AND VARIAz WITH DIALYTIKAz WITH MACRON
z WITH OXIAz WITH PSILIz WITH PSILI AND OXIAz WITH PSILI AND PERISPOMENIz WITH PSILI AND VARIAz WITH TONOS
z WITH VARIAz WITH VRACHYvKAPPAvLAMDAvMUvNUvOMEGAzA WITH DASIAzA WITH DASIA AND OXIA
zA WITH DASIA AND OXIA AND PROSGEGRAMMENIzA WITH DASIA AND PERISPOMENI
zA WITH DASIA AND PERISPOMENI AND PROSGEGRAMMENIzA WITH DASIA AND PROSGEGRAMMENIzA WITH DASIA AND VARIA
zA WITH DASIA AND VARIA AND PROSGEGRAMMENIzA WITH OXIAzA WITH PROSGEGRAMMENIzA WITH PSILI
zA WITH PSILI AND OXIAzA WITH PSILI AND OXIA AND PROSGEGRAMMENIzA WITH PSILI AND PERISPOMENI
zA WITH PSILI AND PERISPOMENI AND PROSGEGRAMMENIzA WITH PSILI AND PROSGEGRAMMENIzA WITH PSILI AND VARIA
zA WITH PSILI AND VARIA AND PROSGEGRAMMENIzA WITH TONOSzA WITH VARIAxICRONzRON WITH DASIA
zRON WITH DASIA AND OXIAzRON WITH DASIA AND VARIAzRON WITH OXIAzRON WITH PSILIzRON WITH PSILI AND OXIA
zRON WITH PSILI AND VARIAzRON WITH TONOSzRON WITH VARIAvPAMPHYLIAN DIGAMMAwHIwIwSIvRHOy WITH DASIAvSANwHO
wIGMAvTAUwHETAvUPSILONzLON WITH DASIAzLON WITH DASIA AND OXIAzLON WITH DASIA AND PERISPOMENI
zLON WITH DASIA AND VARIAzLON WITH DIALYTIKAzLON WITH MACRONzLON WITH OXIAzLON WITH TONOSzLON WITH VARIA
zLON WITH VRACHYvXIvYOTvZETApUNATE SIGMA SYMBOLoREVERSED DOTTED LUNATE SIGMA SYMBOLxLUNATE SIGMA SYMBOL
oTHETA SYMBOLgDASIAl AND OXIAqPERISPOMENIqVARIAhIALYTIKA AND OXIAuPERISPOMENIuVARIAqTONOShRACHMA SIGN
gFIVE OBOLS SIGNhOUR OBOLS SIGNgGRAMMA SIGNgINDICTION SIGNiSTRUMENTAL NOTATION SYMBOL-1zON SYMBOL-11
zON SYMBOL-12zON SYMBOL-13zON SYMBOL-14zON SYMBOL-17zON SYMBOL-18zON SYMBOL-19zON SYMBOL-2zON SYMBOL-23
zON SYMBOL-24zON SYMBOL-25zON SYMBOL-26zON SYMBOL-27zON SYMBOL-29zON SYMBOL-30zON SYMBOL-32zON SYMBOL-36
zON SYMBOL-37zON SYMBOL-38zON SYMBOL-39zON SYMBOL-4zON SYMBOL-40zON SYMBOL-42zON SYMBOL-43zON SYMBOL-45
zON SYMBOL-47zON SYMBOL-48zON SYMBOL-49zON SYMBOL-5zON SYMBOL-50zON SYMBOL-51zON SYMBOL-52zON SYMBOL-53
zON SYMBOL-54zON SYMBOL-7zON SYMBOL-8gKAI SYMBOLiPPA SYMBOLhORONIShYATHOS BASE SIGNgLETTER ARCHAIC KOPPA
nDIGAMMAnKOPPAnSAMPIoMALL CAPITAL GAMMAzL LAMDAzL OMEGAzL PIzL PSIzL RHOoTIGMAnYOThITRA SIGN
hOWER NUMERAL SIGNhUNATE EPSILON SYMBOLnSIGMA SYMBOLgMETRETES SIGNhUSICAL LEIMMAgNUMERAL SIGNgOBOL SIGN
hNE HALF SIGNt ALTERNATE FORMkQUARTER SIGNhUNKIA SIGNhXIAgPERISPOMENIhHI SYMBOLhI SYMBOLhROSGEGRAMMENIhSILI
l AND OXIAqPERISPOMENIqVARIAgQUESTION MARKgREVERSED LUNATE EPSILON SYMBOLhHO SYMBOLkWITH STROKE SYMBOL
gSINUSOID SIGNhMALL DOTTED LUNATE SIGMA SYMBOLmLETTER ALPHAy WITH DASIAzWITH DASIA AND OXIA
zWITH DASIA AND OXIA AND YPOGEGRAMMENIzWITH DASIA AND PERISPOMENI
zWITH DASIA AND PERISPOMENI AND YPOGEGRAMMENIzWITH DASIA AND VARIAzWITH DASIA AND VARIA AND YPOGEGRAMMENI
zWITH DASIA AND YPOGEGRAMMENIzWITH MACRONzWITH OXIAzWITH OXIA AND YPOGEGRAMMENIzWITH PERISPOMENI
zWITH PERISPOMENI AND YPOGEGRAMMENIzWITH PSILIzWITH PSILI AND OXIAzWITH PSILI AND OXIA AND YPOGEGRAMMENI
zWITH PSILI AND PERISPOMENIzWITH PSILI AND PERISPOMENI AND YPOGEGRAMMENIzWITH PSILI AND VARIA
zWITH PSILI AND VARIA AND YPOGEGRAMMENIzWITH PSILI AND YPOGEGRAMMENIzWITH TONOSzWITH VARIA
zWITH VARIA AND YPOGEGRAMMENIzWITH VRACHYzWITH YPOGEGRAMMENIuRCHAIC KOPPAzC SAMPItBETAtCHItDELTAuIGAMMA
tEPSILONzN WITH DASIAzN WITH DASIA AND OXIAzN WITH DASIA AND VARIAzN WITH OXIAzN WITH PSILI
zN WITH PSILI AND OXIAzN WITH PSILI AND VARIAzN WITH TONOSzN WITH VARIAuTAw WITH DASIAzTH DASIA AND OXIA
zTH DASIA AND OXIA AND YPOGEGRAMMENIzTH DASIA AND PERISPOMENIzTH DASIA AND PERISPOMENI AND YPOGEGRAMMENI
zTH DASIA AND VARIAzTH DASIA AND VARIA AND YPOGEGRAMMENIzTH DASIA AND YPOGEGRAMMENIzTH OXIA
zTH OXIA AND YPOGEGRAMMENIzTH PERISPOMENIzTH PERISPOMENI AND YPOGEGRAMMENIzTH PSILIzTH PSILI AND OXIA
zTH PSILI AND OXIA AND YPOGEGRAMMENIzTH PSILI AND PERISPOMENIzTH PSILI AND PERISPOMENI AND YPOGEGRAMMENI
zTH PSILI AND VARIAzTH PSILI AND VARIA AND YPOGEGRAMMENIzTH PSILI AND YPOGEGRAMMENIzTH TONOSzTH VARIA
zTH VARIA AND YPOGEGRAMMENIzTH YPOGEGRAMMENItFINAL SIGMAtGAMMAtHETAtIOTAx WITH DASIAzITH DASIA AND OXIA
zITH DASIA AND PERISPOMENIzITH DASIA AND VARIAzITH DIALYTIKAzITH DIALYTIKA AND OXIA
zITH DIALYTIKA AND PERISPOMENIzITH DIALYTIKA AND TONOSzITH DIALYTIKA AND VARIAzITH MACRONzITH OXIA
zITH PERISPOMENIzITH PSILIzITH PSILI AND OXIAzITH PSILI AND PERISPOMENIzITH PSILI AND VARIAzITH TONOS
zITH VARIAzITH VRACHYtKAPPAuOPPAtLAMDAtMUtNUtOMEGAy WITH DASIAzWITH DASIA AND OXIA
zWITH DASIA AND OXIA AND YPOGEGRAMMENIzWITH DASIA AND PERISPOMENI
zWITH DASIA AND PERISPOMENI AND YPOGEGRAMMENIzWITH DASIA AND VARIAzWITH DASIA AND VARIA AND YPOGEGRAMMENI
zWITH DASIA AND YPOGEGRAMMENIzWITH OXIAzWITH OXIA AND YPOGEGRAMMENIzWITH PERISPOMENI
zWITH PERISPOMENI AND YPOGEGRAMMENIzWITH PSILIzWITH PSILI AND OXIAzWITH PSILI AND OXIA AND YPOGEGRAMMENI
zWITH PSILI AND PERISPOMENIzWITH PSILI AND PERISPOMENI AND YPOGEGRAMMENIzWITH PSILI AND VARIA
zWITH PSILI AND VARIA AND YPOGEGRAMMENIzWITH PSILI AND YPOGEGRAMMENIzWITH TONOSzWITH VARIA
zWITH VARIA AND YPOGEGRAMMENIzWITH YPOGEGRAMMENIvICRONzN WITH DASIAzN WITH DASIA AND OXIA
zN WITH DASIA AND VARIAzN WITH OXIAzN WITH PSILIzN WITH PSILI AND OXIAzN WITH PSILI AND VARIAzN WITH TONOS
zN WITH VARIAtPAMPHYLIAN DIGAMMAuHIuIuSItRHOw WITH DASIAzTH PSILItSAMPIvNuHOuIGMAuTIGMAtTAUuHETAtUPSILON
zN WITH DASIAzN WITH DASIA AND OXIAzN WITH DASIA AND PERISPOMENIzN WITH DASIA AND VARIAzN WITH DIALYTIKA
zN WITH DIALYTIKA AND OXIAzN WITH DIALYTIKA AND PERISPOMENIzN WITH DIALYTIKA AND TONOS
zN WITH DIALYTIKA AND VARIAzN WITH MACRONzN WITH OXIAzN WITH PERISPOMENIzN WITH PSILIzN WITH PSILI AND OXIA
zN WITH PSILI AND PERISPOMENIzN WITH PSILI AND VARIAzN WITH TONOSzN WITH VARIAzN WITH VRACHYtXItZETA
mREVERSED DOTTED LUNATE SIGMA SYMBOLvLUNATE SIGMA SYMBOLhUBSCRIPT SMALL LETTER BETAzTER CHIzTER GAMMA
zTER PHIzTER RHOhYMBOL TAU RHOgTALENT SIGNhHETA SYMBOLiREE OBOLS SIGNmQUARTERS SIGNhONOShRYBLION BASE SIGN
hWO OBOLS SIGNkTHIRDS SIGNgUPSILON WITH ACUTE AND HOOK SYMBOLtDIAERESIS AND HOOK SYMBOLtHOOK SYMBOLgVARIA
hOCAL NOTATION SYMBOL-1zOL-10zOL-11zOL-12zOL-13zOL-14zOL-15zOL-16zOL-17zOL-18zOL-19zOL-2zOL-20zOL-21zOL-22
zOL-23zOL-24zOL-3zOL-4zOL-5zOL-50zOL-51zOL-52zOL-53zOL-54zOL-6zOL-7zOL-8zOL-9gXESTES SIGNgYEAR SIGN
hPOGEGRAMMENIgZERO SIGNeN APPLEgBOOKgHEARTgSALADcIMACING FACEdNNING CAT FACE WITH SMILING EYESjFACE
n WITH ONE LARGE AND ONE SMALL EYEtSMILING EYESuTAR EYEScOUP MARKgSEPARATORdWING HEARTbSbUARANI SIGNeDSMAN
cIDE DOGdTARcJARATI ABBREVIATION SIGNjDIGIT EIGHTpFIVEqOURpNINEpONEpSEVENqIXpTHREEqWOpZEROjLETTER ArArIrUqBA
rHAqCArHAqDArDAsHArHAqEqGArHAqHAqIrIqJArHAqKArHAqLArLAqMAqNArGArNArYAqOqPArHAqRAqSArHArSAqTArHArTAsHAqUrUqVA
rOCALIC LzLyRzRqYAqZHAjOMjRUPEE SIGNjSIGN ANUSVARApVAGRAHAoCANDRABINDUpIRCLE NUKTA ABOVEoMADDAHoNUKTAoSHADDA
pUKUNoTHREE-DOT NUKTA ABOVEpWO-CIRCLE NUKTA ABOVEoVIRAMAqSARGAjVOWEL CANDRA EwOpSIGN AAvIvUuCANDRA EzA OuEuI
vIuOuUvUuVOCALIC LzIC LLzIC RzIC RRcNJALA GONDI DIGIT EIGHTuFIVEvOURuNINEuONEuSEVENvIXuTHREEvWOuZERO
oLETTER AwAwIwUvBAwHAvCAwHAvDAwDAxHAwHAvEEvGAwHAvHAvIwIvJAwHAvKAwHAvLAwLAvMAvNAwGAvOOvPAwHAvRAvSAvTAwHAwTA
xHAvUwUvVAvYAoOMoSIGN ANUSVARAtVISARGAoVIRAMApOWEL SIGN AAzAIzAUzEEzIzIIzOOzUzUUcRMUKHI ABBREVIATION SIGN
kDDAKjDIGIT EIGHTpFIVEqOURpNINEpONEpSEVENqIXpTHREEqWOpZEROjEK ONKARjIRIjLETTER ArArIrUqBArHAqCArHAqDArDAsHA
rHAqEEqFAqGArHAsHAqHAqIrIqJArHAqKArHAsHAqLArLAqMAqNArGArNArYAqOOqPArHAqRArRAqSArHAqTArHArTAsHAqUrUqVAqYAqZA
jSIGN ADAK BINDIoBINDIoNUKTAoUDAAToVIRAMAqSARGAoYAKASHjTIPPIjURAjVOWEL SIGN AAvIvUuEEuIvIuOOuUvUaHADES
cIR SPACEeCUTcLFWIDTH BLACK SQUAREkDOWNWARDS ARROWkFORMS LIGHT VERTICALkHANGUL FILLERrLETTER AzEyCHIEUCH
zIEUCyEzOzUyHIEUHyIzEUNGyKHIEUKHzIYEOKzIYEOK-SIOSyMIEUMyNIEUNzIEUN-CIEUCzIEUN-HIEUHyOzEyPHIEUPHzIEUP
zIEUP-SIOSyRIEULzIEUL-HIEUHzIEUL-KIYEOKzIEUL-MIEUMzIEUL-PHIEUPHzIEUL-PIEUPzIEUL-SIOSzIEUL-THIEUTHySIOS
zSANGCIEUCzSANGKIYEOKzSANGPIEUPzSANGSIOSzSANGTIKEUTyTHIEUTHzIKEUTyUyWAzAEzEzEOzIyYAzAEzEzEOzIzOzU
kIDEOGRAPHIC COMMAwFULL STOPkKATAKANA LETTER Az Ez HAz HEz HIz HOz HUz Iz KAz KEz KIz KOz KUz MAz MEz MIz MO
z MUz Nz NAz NEz NIz NOz NUz Oz RAz REz RIz ROz RUz SAz SEz SIz SMALL Az SMALL Ez SMALL Iz SMALL Oz SMALL TU
z SMALL Uz SMALL YAz SMALL YOz SMALL YUz SOz SUz TAz TEz TIz TOz TUz Uz WAz WOz YAz YOz YUtMIDDLE DOT
tSEMI-VOICED SOUND MARKtVOICED SOUND MARKs-HIRAGANA PROLONGED SOUND MARKkLEFT CORNER BRACKEToWARDS ARROW
kRIGHT CORNER BRACKETpWARDS ARROWkUPWARDS ARROWkWHITE CIRCLEcMBURGERdMERg AND PICKlSICKLElWRENCHdSAeTER FACE
cND WITH INDEX AND MIDDLE FINGERS CROSSEDqFINGER AND THUMB CROSSEDeBAGgLLeSHAKE
dGUL CHOSEONG CEONGCHIEUMCHIEUCHzUMCIEUCzUMSIOSzUMSSANGCIEUCzUMSSANGSIOSrHIEUCHx-HIEUHyKHIEUKHtTUEUMCHIEUCH
zIEUCySIOSzSANGCIEUCzSANGSIOSrIEUCv-IEUNGqFILLERqHIEUHv-SIOSqIEUNGv-CHIEUCHxIEUCwHIEUHwKIYEOKwMIEUMwPANSIOS
xHIEUPHxIEUPwRIEULwSIOSwTHIEUTHxIKEUTqKAPYEOUNMIEUMyPHIEUPHzIEUPyRIEULySSANGPIEUPrHIEUKHrIYEOKw-TIKEUTqMIEUM
v-KIYEOKwPIEUPwSIOSwTIKEUTqNIEUNv-CIEUCwHIEUHwKIYEOKwPIEUPwSIOSwTIKEUTqPANSIOSrHIEUPHx-HIEUHyPIEUPrIEUP
v-CHIEUCHxIEUCwHIEUHwKHIEUKHxIYEOKwNIEUNwPHIEUPHwSIOSzS-CIEUCzS-KIYEOKzS-PIEUPzS-THIEUTHzS-TIKEUTxSANGSIOS
wTHIEUTHxIKEUTqRIEULv-CIEUCwHIEUHwKAPYEOUNPIEUPxHIEUKHxIYEOKwMIEUMwNIEUNwPIEUPwSIOSxSANGKIYEOKzNGPIEUP
zNGTIKEUTwTIKEUTqSIOSu-CHIEUCHwIEUCvHIEUHvIEUNGvKHIEUKHwIYEOKvMIEUMvNIEUNvPHIEUPHwIEUPzP-KIYEOKvRIEUL
vSSANGSIOSvTHIEUTHwIKEUTrSANGCIEUCzC-HIEUHvHIEUHvIEUNGvKIYEOKvNIEUNvPIEUPvRIEULvSIOSz-PIEUPvTHIEUTHwIKEUT
vYEORINHIEUHqTHIEUTHrIKEUTw-CIEUCxKIYEOKxMIEUMxPIEUPxRIEULxSIOSqYEORINHIEUHsSIEUNGhDOUBLE DOT TONE MARK
hFILLERhJONGSEONG CHIEUCHsIEUCw-PIEUPxSSANGPIEUPrHIEUHw-MIEUMxNIEUNxPIEUPxRIEULrIEUNGw-KHIEUKHyIYEOK
xSSANGKIYEOKrKAPYEOUNMIEUMzPHIEUPHzPIEUPzRIEULsHIEUKHsIYEOKx-CHIEUCHyHIEUHyKHIEUKHyNIEUNyPIEUPyRIEULySIOS
zIOS-KIYEOKrMIEUMw-CHIEUCHyIEUCxHIEUHxKIYEOKxNIEUNxPANSIOSyIEUPzEUP-SIOSxRIEULxSIOSySANGNIEUNzANGSIOSrNIEUN
w-CHIEUCHyIEUCxHIEUHxKIYEOKxPANSIOSxRIEULxSIOSxTHIEUTHyIKEUTrPANSIOSy-KAPYEOUNPIEUPzPIEUPsHIEUPHy-PIEUPzSIOS
zTHIEUTHsIEUPw-CHIEUCHyIEUCxHIEUHxMIEUMxPHIEUPHxRIEULzEUL-PHIEUPHxSIOSzOS-TIKEUTxTIKEUTrRIEULw-HIEUH
xKAPYEOUNPIEUPyHIEUKHyIYEOKzYEOK-HIEUHzYEOK-SIOSxMIEUMzEUM-HIEUHzEUM-KIYEOKzEUM-SIOSxNIEUNxPANSIOSyHIEUPH
yIEUPzEUP-HIEUHzEUP-PHIEUPHzEUP-SIOSzEUP-TIKEUTxSIOSySANGKIYEOKzANGSIOSxTHIEUTHyIKEUTzKEUT-HIEUHxYEORINHIEUH
zORINHIEUH-HIEUHzSIEUNGrSIOSv-CHIEUCHxIEUCwHIEUHwKAPYEOUNPIEUPxIYEOKwMIEUMwPANSIOSxIEUPwRIEULwTHIEUTHxIKEUT
sSANGCIEUCwIEUNGwKIYEOKwMIEUMwNIEUNwPIEUPwRIEULzUL-KHIEUKHwSIOSzS-KIYEOKzS-TIKEUTwTIKEUTzEUT-PIEUPwYESIEUNG
rTHIEUTHsIKEUTx-CHIEUCHzIEUCyKIYEOKyPIEUPyRIEULySIOSzIOS-KIYEOKyTHIEUTHrYEORINHIEUHtSIEUNGz-HIEUHz-KHIEUKH
z-KIYEOKz-MIEUMz-PANSIOSz-SIOSz-SSANGKIYEOKiUNGSEONG As-EUtOtUsEsRAEAw-AxEyOxIxUrEsOt-EUuOuUsUt-AuEvOvUuOuU
rFILLERrIs-AuRAEAtEUtItOu-ItUtYAv-OvEuEvOuOuUrOs-EuOtOu-ItUtYAvEuEvOsErSSANGARAEArUs-AuEtEO-EUtI-ItUtYEvOrWA
tEsEtOsIrYAt-OuUuYOtEsEtOu-OvUvYAsIt-UsOt-AvEuEOuIuOuYAwEvEOsUt-AvEuEvOuIuOuUuYEwOhLETTER ApEpRAEAtEoCHIEUCH
pIEUCoEpOpUoHIEUHoIpEUNGoKAPYEOUNMIEUMwPHIEUPHxIEUPwSSANGPIEUPpHIEUKHpIYEOKu-SIOSoMIEUMt-PANSIOSvIEUPuSIOS
oNIEUNt-CIEUCuHIEUHuPANSIOSuSIOSuTIKEUToOpEoPANSIOSpHIEUPHpIEUPt-CIEUCuKIYEOKuSIOSy-KIYEOKzTIKEUTuTHIEUTH
vIKEUToRIEULt-HIEUHuKIYEOKzK-SIOSuMIEUMuPANSIOSvHIEUPHvIEUPz-SIOSuSIOSuTHIEUTHvIKEUTuYEORINHIEUHoSIOSs-CIEUC
tKIYEOKtNIEUNtPIEUPtTIKEUTpSANGCIEUCtHIEUHtIEUNGtKIYEOKtNIEUNtPIEUPtSIOStTIKEUToTHIEUTHpIKEUToUoWAqEpEqOpI
oYAqEpEqOrRINHIEUHqSIEUNGw-PANSIOSxSIOSpIpOq-IrYAtEpUq-IrYEtOhSINGLE DOT TONE MARKeZHOU NUMERAL EIGHTrFIVE
sOURrNINErONErSEVENsIXrTENsHIRTYtREEsWENTYtOdIFI ROHINGYA DIGIT EIGHTwFIVExOURwNINEwONEwSEVENxIXwTHREExWO
wZEROqLETTER AxBAxCAxDAyDAxFAxGAxHAxJAxKAyHAyINNA WAzNNA YAxLAxMAxNAyGAyYAxPAxRAyRAxSAyHAxTAyTAxVAxWAxYAxZA
qMARK NA KHONNAvSAKINqSIGN HARBAHAYvTAHALAxNAxSSIqVOWEL AwEwIwOwUdUNOO LETTER ApBApDApGApHApIpKApLApMApNAqGA
pPApRApSApTApUpWApYAiSIGN PAMUDPODiVOWEL SIGN ItUcPPY PERSON RAISING ONE HANDcRD DISKcTCHING CHICK
dRAN LETTER ALEPHpYNoBETHoDALETH-RESHoGIMELoHEqTHoKAPHoLAMEDHoMEMoNUNoPEoQOPHoSADHEqMEKHpHINoTAWpETHoWAW
oYODHoZAYNhNUMBER FIVEoONEr HUNDREDoTENpWENTYbEADPHONEeSTONEj GRAVEYARD SYMBOLdR-NO-EVIL MONKEYeT DECORATION
gHANDSgWITH ARROWlRIBBONlTIP ON THE LEFTdVY AMPERSAND ORNAMENThRROW SHAFT WIDTH ONEzNE HALFzNE THIRD
yTWO THIRDShSTERISKgBALLOT XhLACK CURVED DOWNWARDS AND RIGHTWARDS ARROWtUPWARDS AND RIGHTWARDS ARROWmHEART
l-FEATHERED NORTH EAST ARROWwRIGHTWARDS ARROWwSOUTH EAST ARROWgCHECK MARKjVRON SNOWFLAKEhIRCLE
m WITH CIRCLE INSIDEsSTROKE AND TWO DOTS ABOVEmD SALTIREhONCAVE-POINTED BLACK RIGHTWARDS ARROW
gDASHED TRIANGLE-HEADED RIGHTWARDS ARROWhIVISION SIGNhOLLAR SIGNiUBLE COMMA QUOTATION MARK ORNAMENT
nTURNED COMMA QUOTATION MARK ORNAMENTiWNWARDS ARROW WITH EQUILATERAL ARROWHEADzH LARGE EQUILATERAL ARROWHEAD
gEIGHT POINTED BLACK STARuPINWHEEL STARuRECTILINEAR BLACK STARmSPOKED ASTERISK
mTEARDROP-SPOKED PROPELLER ASTERISKhQUALS SIGNhXCLAMATION MARK ORNAMENTxSYMBOLgFIVE POINTED BLACK STAR
lSPOKED ASTERISKhOUR BALLOON-SPOKED ASTERISKgGREEK CROSSgHEART EXCLAMATION MARK ORNAMENThORIZONTAL FILL
gINTERROBANG ORNAMENTgLARGE CIRCLEiTIN CROSShEFT-POINTING ANGLE BRACKET ORNAMENTz QUOTATION MARK ORNAMENT
kWARDS ARROW WITH EQUILATERAL ARROWHEADzH LARGE EQUILATERAL ARROWHEADhIGATURE OPEN ET ORNAMENT
hOW DOUBLE COMMA QUOTATION MARK ORNAMENTkSINGLE COMMA QUOTATION MARK ORNAMENT
jER RIGHT-SHADOWED WHITE RIGHTWARDS ARROWgMINUS SIGNhULTIPLICATION XgNORTH EAST ARROWrPOINTING BUD
z VINE LEAFmWEST POINTING BUDz VINE LEAFgOPEN CENTRE CROSShUTLINED BLACK STARhVAL WITH OVAL INSIDEgPLUS SIGN
gRIGHT-POINTING ANGLE BRACKET ORNAMENTzE QUOTATION MARK ORNAMENTlWARDS ARROWw WITH EQUILATERAL ARROWHEAD
zTH LARGE EQUILATERAL ARROWHEADhOUND-TIPPED RIGHTWARDS ARROWgSALTIREiNS-SERIF INTERROBANG ORNAMENT
hCRIPT LIGATURE ET ORNAMENThINGLE COMMA QUOTATION MARK ORNAMENTnTURNED COMMA QUOTATION MARK ORNAMENT
iX POINTED BLACK STARkSPOKED ASTERISKhOUTH EAST ARROWrPOINTING BUDz VINE LEAFmWEST POINTING BUDz VINE LEAF
hPARKLEgTEARDROP-SHANKED RIGHTWARDS ARROWqPOKED ASTERISKwPINWHEEL ASTERISKhRIANGLE-HEADED RIGHTWARDS ARROW
hWELVE POINTED BLACK STARvPINWHEEL STARgUPPER RIGHT-SHADOWED WHITE RIGHTWARDS ARROW
iWARDS ARROW WITH EQUILATERAL ARROWHEADzLARGE EQUILATERAL ARROWHEADgVERTICAL BAR
gWEDGE-TAILED RIGHTWARDS ARROWhHITE CIRCLEmDOWN-POINTING TRIANGLEmSQUAREhIDE-HEADED RIGHTWARDS ARROW
cBREW ACCENT ATNAH HAFUKHoDARGApEHIoETNAHTAoGERESHu MUQDAMrSHAYIMoILUYoMAHAPAKHpERKHAu KEFULApUNAHoOLE
oPASHTAqZERoQADMAqRNEY PARAoREVIAoSEGOLpHALSHELEToTELISHA GEDOLAwQETANAqVIRpIPEHAoYERAH BEN YOMOqTIV
oZAQEF GADOLuQATANqRQApINORhLETTER ALEFs WITH MAPIQyPATAHyQAMATSqTERNATIVE AYINz PLUS SIGNpYINoBET
r WITH DAGESHxRAFEoDALETt WITH DAGESHoFINAL KAFx WITH DAGESHuMEMuNUNuPEw WITH DAGESHuTSADIoGIMEL
t WITH DAGESHoHEq WITH MAPIQqToKAFr WITH DAGESHxRAFEoLAMEDt WITH DAGESHoMEMr WITH DAGESHoNUNr WITH DAGESHoPE
q WITH DAGESHwRAFEoQOFr WITH DAGESHoRESHs WITH DAGESHoSAMEKHu WITH DAGESHpHINs WITH DAGESH
zAGESH AND SHIN DOTzAGESH AND SIN DOTySHIN DOTzIN DOToTAVr WITH DAGESHpETr WITH DAGESHpSADIt WITH DAGESHoVAV
r WITH DAGESHxHOLAMoWIDE ALEFtDALETtFINAL MEMtHEtKAFtLAMEDtRESHtTAVoYODr WITH DAGESHxHIRIQoZAYIN
t WITH DAGESHiIGATURE ALEF LAMEDqYIDDISH DOUBLE VAVzOUBLE YODyVAV YODyYOD YOD PATAHhMARK LOWER DOT
mMASORA CIRCLEmUPPER DOThPOINT DAGESH OR MAPIQnHATAF PATAHtQAMATStSEGOLoIRIQoOLAMs HASER FOR VAV
nJUDEO-SPANISH VARIKAnMETEGnPATAHnQAMATSt QATANoUBUTSnRAFEnSEGOLoHEVApIN DOToIN DOTnTSEREiUNCTUATION GERESH
wSHAYIMtMAQAFtNUN HAFUKHAtPASEQtSOF PASUQhYOD TRIANGLEcDGEHOGcLICOPTERdLSCHREIBER PAUSE SYMBOLdM SYMBOL
eET WITH WHITE CROSScNTAIGANA LETTER A-1u2u3uWOsE-1u2u3u4u5u6sHA-1w0w1v2v3v4v5v6v7v8v9tE-1v2v3v4v5v6v7tI-1v2
v3v4v5v6v7tO-1v2v3v4v5v6v7v8tU-1v2v3sI-1u2u3u4sKA-1w0w1v2v3v4v5v6v7v8v9vKEtE-1v2v3v4v5v6tI-1v2v3v4v5v6v7v8
tO-1v2v3vKItU-1v2v3v4v5v6v7sMA-1v2v3v4v5v6v7tE-1v2vMAtI-1v2v3v4v5v6v7tO-1v2v3v4v5v6tU-1v2v3v4sN-MU-MO-1z-2
tA-1v2v3v4v5v6v7v8v9tE-1v2v3v4v5v6vKOtI-1v2v3v4v5v6v7vTEtO-1v2v3v4v5tU-1v2v3sO-1u2u3sRA-1v2v3v4tE-1v2v3v4
tI-1v2v3v4v5v6v7tO-1v2v3v4v5v6tU-1v2v3v4v5v6sSA-1v2v3v4v5v6v7v8tE-1v2v3v4v5tI-1v2v3v4v5v6tO-1v2v3v4v5v6v7
tU-1v2v3v4v5v6v7v8sTA-1v2v3v4tE-1v2v3v4v5v6v7v8v9tI-1v2v3v4v5v6v7tO-1v2v3v4v5v6vRAtU-1v2v3v4vTOsU-1u2u3u4u5
sWA-1v2v3v4v5tE-1v2v3v4tI-1v2v3v4v5tO-1v2v3v4v5v6v7sYA-1v2v3v4v5vYOtO-1v2v3v4v5v6tU-1v2v3v4cRB
dMITIAN CONJUGATE MATRIXcXAGRAM FOR ABUNDANCEoFTER COMPLETIONoPPROACHnBEFORE COMPLETIONoITING THROUGH
oREAKTHROUGHnCOMING TO MEETpNFLICTqTEMPLATIONnDARKENING OF THE LIGHToECREASEpLIVERANCEpVELOPMENT
oIFFICULTY AT THE BEGINNINGpSPERSIONoURATIONnENTHUSIASMnFELLOWSHIPoOLLOWINGnGATHERING TOGETHERoRACE
pEAT POSSESSIONvWERuREPONDERANCEtTAMINGnHOLDING TOGETHERnINCREASEpFLUENCEpNER TRUTHqOCENCEnLIMITATION
nMODESTYpUTH CORNERSnOBSTRUCTIONoPPOSITIONqRESSIONnPEACEoROGRESSoUSHING UPWARDnRETREATqURNpVOLUTION
nSMALL PREPONDERANCEtTAMINGoPLITTING APARToTANDSTILLnTHE ABYSMAL WATERsRMYtOUSING THUNDERrCAULDRON
sLINGING FIREsREATIVE HEAVENrFAMILYrGENTLE WINDrJOYOUS LAKErKEEPING STILL MOUNTAINrMARRYING MAIDEN
rRECEPTIVE EARTHrWANDERERsELLoREADINGnWAITINGoORK ON THE DECAYEDnYOUTHFUL FOLLYbIBISCUScGH BRIGHTNESS SYMBOL
fOCTET PRESETfVOLTAGE SIGNe-HEELED SHOEfSPEED TRAINq WITH BULLET NOSEcKING BOOTcNDU TEMPLEcPPOPOTAMUS
cRAGANA DIGRAPH YORIjITERATION MARKjLETTER ArRCHAIC WUyYEqBArErIrOrUqDArErIrOrUqEqGArErIrOrUqHArErIrOrUqIqKA
rErIrOrUqMArErIrOrUqNrArErIrOrUqOqPArErIrOrUqRArErIrOrUqSArErIrMALL AwEwIwKAxEwOwTUwUwWAxExIxOwYAxOxUrOrUqTA
rErIrOrUqUqVUqWArErIrOqYArOrUqZArErIrOrUjVOICED ITERATION MARKcSTORIC SITEbOCHOcLEdLOW QUILT SQUARE ORNAMENT
zENT IN BLACK SQUAREcMOTHETICcNEY POTfBEEcOKcPcRIZONTAL BARmLACK HEXAGONrOCTAGONlELLIPSISlLINE EXTENSION
lMALE WITH STROKE SIGNlONE EIGHTH BLOCK-1358zCK-2zCK-3zCK-4zCK-5zCK-6zCK-7lSCAN LINE-1v3v7v9lTAB KEYoULATION
v SETwWITH JUSTIFICATIONmRAFFIC LIGHTdSEf FACEgRACINGcSPITALcT BEVERAGEeDOGePEPPEReSPRINGSdELcURGLASS
j WITH FLOWING SANDdSEf BUILDINGoSgWITH GARDENbRYVNIA SIGNbTcJcSbUGGING FACEcNDRED POINTS SYMBOLcSHED FACEcT
bYGIEAcPHENg BULLEThWITH DIAERESISg-MINUSgATION POINTdODIASTOLEcSTERESIS SYMBOL"

end LineScript.Text
